import ScriptedShell.Script.Member
import ScriptedShell.Script.Number

/-!
Converting values. An object converts by functions of its own, so each conversion is given the means
to call them.
-/

namespace ScriptedShell.Script.Convert

inductive Hint where
  | any
  | number
  | text
deriving DecidableEq, Repr, Inhabited

def Hint.name : Hint → String
  | .any => "default"
  | .number => "number"
  | .text => "string"

def Hint.methods : Hint → List String
  | .text => ["toString", "valueOf"]
  | .any | .number => ["valueOf", "toString"]

def tryMethods (call : Caller) (value : Value) : List String → Action Value
  | [] => Action.typeError "toPrimitive"
  | name :: rest => do
    let method ← Member.readNamed call value name
    if ← Action.isCallable method then
      match ← call method value [] with
      | .object _ => tryMethods call value rest
      | result => pure result
    else tryMethods call value rest

/-- A value that is no object. An object may have a function for all conversions. -/
def primitive (call : Caller) (hint : Hint) (value : Value) : Action Value :=
  match value with
  | .object _ => do
    match ← Member.read call value (.known "toPrimitive") with
    | .undefined | .null => tryMethods call value hint.methods
    | method =>
      match ← call method value [.ofString hint.name] with
      | .object _ => Action.typeError "toPrimitive"
      | result => return result
  | _ => pure value

def plainText : Value → Action Units
  | .undefined => pure (Utf16.encode "undefined")
  | .null => pure (Utf16.encode "null")
  | .boolean value => pure (Utf16.encode (if value then "true" else "false"))
  | .number value _ => pure (Utf16.encode (Number.text value))
  | .bigint value => pure (Utf16.encode (toString value))
  | .text units => pure units
  | .symbol _ => Action.typeError "cannot convert symbol to string"
  | .object _ => Action.typeError "toPrimitive"

def text (call : Caller) (value : Value) : Action Units := do
  plainText (← primitive call .text value)

/-- The text of a value as it leaves the engine, which half of a pair alone cannot. -/
def hostText (call : Caller) (value : Value) : Action String := do
  match Utf16.decode (← text call value) with
  | .ok text => pure text
  | .error position =>
    Action.typeError
      ("Conversion from string failed: invalid utf-8 sequence of 1 bytes from index "
        ++ toString position)

def key (call : Caller) (value : Value) : Action PropertyKey := do
  match ← primitive call .text value with
  | .symbol mark => pure (.symbol mark)
  | plain => return .text (← plainText plain)

def numberOfUnits (units : Units) : Float :=
  match Utf16.decode units with
  | .ok text => (Number.read? text).getD Value.notANumber
  | .error _ => Value.notANumber

def plainNumeric : Value → Action Value
  | .undefined => pure (.ofFloat Value.notANumber)
  | .null => pure (.ofNat 0)
  | .boolean value => pure (.ofNat (if value then 1 else 0))
  | .number value form => pure (.number value form)
  | .bigint value => pure (.bigint value)
  | .text units => pure (.ofFloat (numberOfUnits units))
  | .symbol _ => Action.typeError "cannot convert symbol to number"
  | .object _ => Action.typeError "toPrimitive"

def numeric (call : Caller) (value : Value) : Action Value := do
  plainNumeric (← primitive call .number value)

def number (call : Caller) (value : Value) : Action Float := do
  match ← numeric call value with
  | .number number _ => return number
  | _ => Action.typeError "cannot convert bigint to number"

def greatestCount : Nat := Nat.pow 2 53 - 1

/-- A count of items: what is not positive counts as zero. -/
def count (call : Caller) (value : Value) : Action Nat := do
  let number ← number call value
  return min number.toUInt64.toNat greatestCount

def isText : Value → Bool
  | .text _ => true
  | _ => false

def add (call : Caller) (left right : Value) : Action Value := do
  let left ← primitive call .any left
  let right ← primitive call .any right
  if isText left || isText right then
    let before ← plainText left
    let after ← plainText right
    return .text (before ++ after)
  else
    let left ← plainNumeric left
    let right ← plainNumeric right
    match left, right with
    | .number left leftForm, .number right rightForm =>
      return .sum left leftForm right rightForm
    | .bigint left, .bigint right => return .bigint (left + right)
    | _, _ => Action.typeError "cannot convert to bigint"

def subtract (call : Caller) (left right : Value) : Action Value := do
  match ← numeric call left, ← numeric call right with
  | .number left leftForm, .number right rightForm =>
    return .difference left leftForm right rightForm
  | .bigint left, .bigint right => return .bigint (left - right)
  | _, _ => Action.typeError "cannot convert to bigint"

def negate (call : Caller) (value : Value) : Action Value := do
  match ← numeric call value with
  | .number number form => return .opposite number form
  | .bigint whole => return .bigint (-whole)
  | _ => return .undefined

def wholeOfUnits? (units : Units) : Option Int :=
  match Utf16.decode units with
  | .ok text => Number.readWhole? text
  | .error _ => none

def lessThan (call : Caller) (left right : Value) : Action Bool := do
  let left ← primitive call .number left
  let right ← primitive call .number right
  match left, right with
  | .text left, .text right => return decide (left < right)
  | .bigint left, .text right =>
    return (wholeOfUnits? right).any fun right => left < right
  | .text left, .bigint right =>
    return (wholeOfUnits? left).any fun left => left < right
  | left, right =>
    match ← plainNumeric left, ← plainNumeric right with
    | .number left _, .number right _ => return left < right
    | .bigint left, .bigint right => return left < right
    | .bigint left, .number right _ =>
      return !right.isNaN && Number.compareWhole left right == .lt
    | .number left _, .bigint right =>
      return !left.isNaN && Number.compareWhole right left == .gt
    | _, _ => return false

def hasMember (call : Caller) (keyValue object : Value) : Action Bool := do
  match object with
  | .object id =>
    let key ← Convert.key call keyValue
    return (← Member.find? id key).isSome
  | _ => Action.typeError "invalid 'in' operand"

end ScriptedShell.Script.Convert
