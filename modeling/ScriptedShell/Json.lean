import ScriptedShell.Text.Utf16

/-!
JSON values. A number keeps its spelling, since readers differ in what they take from it, and a
string or a name is a sequence of code units, since an escape can spell half a pair.
-/

namespace ScriptedShell

structure JsonNumber where
  negative : Bool := false
  integer : List Char
  fraction : List Char := []
  exponentNegative : Bool := false
  exponent : List Char := []
  /-- There is a point or an `e`. -/
  scaled : Bool := false
deriving DecidableEq, Repr

inductive Json where
  | null
  | boolean (value : Bool)
  | number (value : JsonNumber)
  | string (units : Units)
  | array (items : List Json)
  | object (members : List (Units × Json))
deriving Inhabited, Repr

namespace JsonNumber

def digitValue (character : Char) : Nat :=
  character.toNat - '0'.toNat

def digitsValue (digits : List Char) : Nat :=
  digits.foldl (fun number digit => 10 * number + digitValue digit) 0

def toNat? (number : JsonNumber) (bound : Nat) : Option Nat :=
  if number.scaled || number.negative then none
  else
    let value := digitsValue number.integer
    if value < bound then some value else none

end JsonNumber

namespace Json

def text? : Json → Option String
  | .string units => (Utf16.decode units).toOption
  | _ => none

def namedMember? (member : Units × Json) : Option (String × Json) :=
  (Utf16.decode member.1).toOption.map fun name => (name, member.2)

end Json

end ScriptedShell
