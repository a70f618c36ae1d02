import ScriptedShell.Text.Utf16

/-!
Values of scripts. Objects live in an engine's heap, and a value names one by its place there.
-/

namespace ScriptedShell.Script

abbrev ObjectId := Nat

/-- A symbol is told from all others by its number. The description is for the reader. -/
structure Symbol where
  id : Nat
  description : Option Units
deriving DecidableEq, Repr, Inhabited

/-- How an engine holds a number: small whole numbers are kept apart, as long as sums stay small and
whole. -/
inductive NumberForm where
  | whole
  | general
deriving DecidableEq, Repr, Inhabited

inductive Value where
  | undefined
  | null
  | boolean (value : Bool)
  | number (value : Float) (form : NumberForm)
  | bigint (value : Int)
  | text (units : Units)
  | symbol (symbol : Symbol)
  | object (id : ObjectId)
deriving Inhabited, Repr

inductive PropertyKey where
  | text (units : Units)
  | symbol (symbol : Symbol)
deriving DecidableEq, Repr, Inhabited

namespace PropertyKey

def named (name : String) : PropertyKey :=
  .text (Utf16.encode name)

def shown : PropertyKey → Units
  | .text units => units
  | .symbol mark => mark.description.getD []

def toValue : PropertyKey → Value
  | .text units => .text units
  | .symbol mark => .symbol mark

def functionName : PropertyKey → Units
  | .text units => units
  | .symbol mark =>
    match mark.description with
    | some description => Utf16.encode "[" ++ description ++ Utf16.encode "]"
    | none => []

/-- A key of decimal digits without a zero in front numbers an item of an array, as long as the
number is below this limit. -/
def indexLimit : Nat := Nat.pow 2 32 - 1

def isDigit (unit : UInt16) : Bool :=
  48 ≤ unit.toNat && unit.toNat ≤ 57

def index? : PropertyKey → Option Nat
  | .symbol _ => none
  | .text units =>
    if units.isEmpty || 10 < units.length || !units.all isDigit then none
    else if 1 < units.length && units.head? == some 48 then none
    else
      let index := units.foldl (fun number digit => 10 * number + (digit.toNat - 48)) 0
      if index < indexLimit then some index else none

def ofIndex (index : Nat) : PropertyKey :=
  .named (toString index)

end PropertyKey

namespace Symbol

def knownNames : List String :=
  ["toPrimitive", "iterator", "match", "matchAll", "replace", "search", "split", "toStringTag",
    "isConcatSpreadable", "hasInstance", "species", "unscopables", "asyncIterator", "operatorSet"]

def known (name : String) : Symbol where
  id := knownNames.idxOf name
  description := some (Utf16.encode ("Symbol." ++ name))

end Symbol

def PropertyKey.known (name : String) : PropertyKey :=
  .symbol (Symbol.known name)

namespace Value

def ofString (text : String) : Value :=
  .text (Utf16.encode text)

def notANumber : Float := 0.0 / 0.0

def leastWhole : Float := -2147483648.0

def greatestWhole : Float := 2147483647.0

def isSmallWhole (number : Float) : Bool :=
  number.floor == number && leastWhole ≤ number && number ≤ greatestWhole
    && !(number == 0.0 && 1.0 / number < 0.0)

def ofFloat (number : Float) : Value :=
  .number number (if isSmallWhole number then .whole else .general)

def ofNat (number : Nat) : Value :=
  ofFloat (Float.ofNat number)

def sum (left : Float) (leftForm : NumberForm) (right : Float) (rightForm : NumberForm) : Value :=
  match leftForm, rightForm with
  | .whole, .whole => ofFloat (left + right)
  | _, _ => .number (left + right) .general

def difference (left : Float) (leftForm : NumberForm) (right : Float) (rightForm : NumberForm) :
    Value :=
  match leftForm, rightForm with
  | .whole, .whole => ofFloat (left - right)
  | _, _ => .number (left - right) .general

def opposite (number : Float) : NumberForm → Value
  | .whole => ofFloat (-number)
  | .general => .number (-number) .general

def isNullish : Value → Bool
  | .undefined | .null => true
  | _ => false

def truthy : Value → Bool
  | .undefined | .null => false
  | .boolean value => value
  | .number value _ => !(value == 0.0 || value.isNaN)
  | .bigint value => value != 0
  | .text units => !units.isEmpty
  | .symbol _ | .object _ => true

def strictlyEquals : Value → Value → Bool
  | .undefined, .undefined => true
  | .null, .null => true
  | .boolean left, .boolean right => left == right
  | .number left _, .number right _ => left == right
  | .bigint left, .bigint right => left == right
  | .text left, .text right => left == right
  | .symbol left, .symbol right => left.id == right.id
  | .object left, .object right => left == right
  | _, _ => false

end Value

end ScriptedShell.Script
