import ScriptedShell.Toml

/-!
The TOML values that are written as one run of characters: truth values, numbers, dates and times.
-/

namespace ScriptedShell.Toml.Scalar

def digitValue? (radix : Nat) (character : Char) : Option Nat :=
  let value :=
    if character.isDigit then character.toNat - '0'.toNat
    else if 'a' ≤ character ∧ character ≤ 'f' then character.toNat - 'a'.toNat + 10
    else if 'A' ≤ character ∧ character ≤ 'F' then character.toNat - 'A'.toNat + 10
    else radix
  if value < radix then some value else none

/-- The digits of a number; an underscore stands only between digits. -/
def readDigits? (radix : Nat) : List Char → Option (List Nat)
  | [] => none
  | [digit] => (digitValue? radix digit).map fun value => [value]
  | digit :: '_' :: rest => do
    let value ← digitValue? radix digit
    let values ← readDigits? radix rest
    return value :: values
  | digit :: rest => do
    let value ← digitValue? radix digit
    let values ← readDigits? radix rest
    return value :: values

def valueOf (radix : Nat) (digits : List Nat) : Nat :=
  digits.foldl (fun number digit => radix * number + digit) 0

def splitSign : List Char → Bool × List Char
  | '-' :: rest => (true, rest)
  | '+' :: rest => (false, rest)
  | rest => (false, rest)

def readPlainDigits? (characters : List Char) : Option (List Nat) := do
  let digits ← readDigits? 10 characters
  if 1 < digits.length && digits.head? == some 0 then none else return digits

def readPlain? (characters : List Char) : Option Nat :=
  (readPlainDigits? characters).map (valueOf 10)

def readInteger? (characters : List Char) : Option Int :=
  match characters with
  | '0' :: 'x' :: digits => (readDigits? 16 digits).map fun digits => Int.ofNat (valueOf 16 digits)
  | '0' :: 'o' :: digits => (readDigits? 8 digits).map fun digits => Int.ofNat (valueOf 8 digits)
  | '0' :: 'b' :: digits => (readDigits? 2 digits).map fun digits => Int.ofNat (valueOf 2 digits)
  | characters =>
    let (negative, digits) := splitSign characters
    (readPlain? digits).map fun number => if negative then -Int.ofNat number else Int.ofNat number

def isExponentMark (character : Char) : Bool :=
  character == 'e' || character == 'E'

structure Magnitude where
  digits : List Nat
  exponent : Int

def readExponent? (characters : List Char) : Option Int :=
  let (negative, digits) := splitSign characters
  (readDigits? 10 digits).map fun digits =>
    if negative then -Int.ofNat (valueOf 10 digits) else Int.ofNat (valueOf 10 digits)

def readMagnitude? (characters : List Char) : Option Magnitude := do
  let isWhole := fun character => character != '.' && !isExponentMark character
  let digits ← readPlainDigits? (characters.takeWhile isWhole)
  match characters.dropWhile isWhole with
  | [] => none
  | '.' :: rest =>
    let places ← readDigits? 10 (rest.takeWhile fun character => !isExponentMark character)
    let exponent ← match rest.dropWhile fun character => !isExponentMark character with
      | [] => some 0
      | _ :: exponent => readExponent? exponent
    return ⟨digits ++ places, exponent - Int.ofNat places.length⟩
  | _ :: exponent => return ⟨digits, ← readExponent? exponent⟩

/-- From here on a number rounds to infinity: half a unit above the greatest double. -/
def floatLimit : Nat :=
  Nat.pow 2 1024 - Nat.pow 2 970

/-- The number is below `floatLimit`. Powers of ten that decide the question alone are not
multiplied out. -/
def Magnitude.isFinite (magnitude : Magnitude) : Bool :=
  let significand := valueOf 10 magnitude.digits
  let exponent := magnitude.exponent
  significand == 0 || exponent ≤ -Int.ofNat magnitude.digits.length
    || exponent < 310 &&
      significand * Nat.pow 10 exponent.toNat < floatLimit * Nat.pow 10 (-exponent).toNat

def isFloat (characters : List Char) : Bool :=
  let unsigned := (splitSign characters).2
  unsigned == "inf".toList || unsigned == "nan".toList || (readMagnitude? unsigned).isSome

def isDouble (spelling : String) : Bool :=
  ((readMagnitude? (splitSign spelling.toList).2).map Magnitude.isFinite).getD true

def number? (digits : List Char) : Option Nat :=
  if digits.all Char.isDigit then some (valueOf 10 (digits.map fun digit => digit.toNat - 48))
  else none

def daysIn (year month : Nat) : Nat :=
  if month = 2 then
    if year % 4 = 0 ∧ (year % 100 ≠ 0 ∨ year % 400 = 0) then 29 else 28
  else if month = 4 ∨ month = 6 ∨ month = 9 ∨ month = 11 then 30
  else 31

def skipDate? : List Char → Option (List Char)
  | y1 :: y2 :: y3 :: y4 :: '-' :: m1 :: m2 :: '-' :: d1 :: d2 :: rest => do
    let year ← number? [y1, y2, y3, y4]
    let month ← number? [m1, m2]
    let day ← number? [d1, d2]
    if 1 ≤ month ∧ month ≤ 12 ∧ 1 ≤ day ∧ day ≤ daysIn year month then some rest else none
  | _ => none

def skipTime? : List Char → Option (List Char)
  | h1 :: h2 :: ':' :: m1 :: m2 :: rest => do
    let hour ← number? [h1, h2]
    let minute ← number? [m1, m2]
    if 23 < hour ∨ 59 < minute then none
    else
      match rest with
      | ':' :: s1 :: s2 :: rest =>
        let second ← number? [s1, s2]
        if 60 < second then none
        else
          match rest with
          | '.' :: fraction =>
            let digits := fraction.takeWhile Char.isDigit
            if digits.isEmpty then none else some (fraction.dropWhile Char.isDigit)
          | rest => some rest
      | rest => some rest
  | _ => none

def isOffset : List Char → Bool
  | [] => true
  | ['Z'] | ['z'] => true
  | [sign, h1, h2, ':', m1, m2] =>
    (sign == '+' || sign == '-') &&
      match number? [h1, h2], number? [m1, m2] with
      | some hour, some minute => hour ≤ 23 && minute ≤ 59
      | _, _ => false
  | _ => false

def isMoment (characters : List Char) : Bool :=
  match skipDate? characters with
  | some [] => true
  | some (separator :: time) =>
    (separator == 'T' || separator == 't' || separator == ' ') &&
      (skipTime? time).any isOffset
  | none => skipTime? characters == some []

def read? (characters : List Char) : Option Toml :=
  if characters = "true".toList then some (.boolean true)
  else if characters = "false".toList then some (.boolean false)
  else
    match readInteger? characters with
    | some number => some (.integer number)
    | none =>
      if isFloat characters then some (.float (String.ofList characters))
      else if isMoment characters then some (.moment (String.ofList characters))
      else none

def inRange (number : Int) : Bool :=
  -Int.ofNat (Nat.pow 2 127) ≤ number && number < Int.ofNat (Nat.pow 2 128)

end ScriptedShell.Toml.Scalar

namespace ScriptedShell.Toml

mutual

def isUsable : Toml → Bool
  | .integer value => Scalar.inRange value
  | .float spelling => Scalar.isDouble spelling
  | .array items => areUsable items
  | .table entries => entriesAreUsable entries
  | .text _ | .boolean _ | .moment _ => true

def areUsable : List Toml → Bool
  | [] => true
  | item :: rest => isUsable item && areUsable rest

def entriesAreUsable : List (String × Toml) → Bool
  | [] => true
  | (_, value) :: rest => isUsable value && entriesAreUsable rest

end

end ScriptedShell.Toml
