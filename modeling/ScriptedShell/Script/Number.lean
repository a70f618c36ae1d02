import ScriptedShell.Decimal.Shortest
import ScriptedShell.Text.Blank

/-!
The text of a script's numbers, and the numbers of texts. A number is written with the fewest digits
that read back, positionally from `1e-7` exclusive up to `1e21` exclusive.
-/

namespace ScriptedShell.Script.Number

def signBit : Nat := Nat.pow 2 63

def zeros (count : Nat) : String :=
  String.ofList (List.replicate count '0')

def exponentText (exponent : Int) : String :=
  if exponent < 0 then "e-" ++ toString exponent.natAbs else "e+" ++ toString exponent.natAbs

def layout (digits : String) (point : Int) : String :=
  let count : Int := digits.length
  if count ≤ point ∧ point ≤ 21 then digits ++ zeros (point - count).toNat
  else if 0 < point ∧ point ≤ 21 then
    String.ofList (digits.toList.take point.toNat) ++ "."
      ++ String.ofList (digits.toList.drop point.toNat)
  else if -6 < point ∧ point ≤ 0 then "0." ++ zeros (-point).toNat ++ digits
  else
    match digits.toList with
    | [] => ""
    | [digit] => digit.toString ++ exponentText (point - 1)
    | digit :: rest =>
      digit.toString ++ "." ++ String.ofList rest ++ exponentText (point - 1)

def text (number : Float) : String :=
  if number.isNaN then "NaN"
  else
    let bits := number.toBits.toNat
    let magnitude := bits % signBit
    if magnitude = 0 then "0"
    else
      let sign := if signBit ≤ bits then "-" else ""
      if number.isInf then sign ++ "Infinity"
      else
        let shortest := (Decimal.Binary.ofBits magnitude).shortest
        sign ++ layout (toString shortest.digits) shortest.point

def isIgnored (character : Char) : Bool :=
  isBlank character && character != '\x85' || character == '\uFEFF'

def trim (characters : List Char) : List Char :=
  ((characters.dropWhile isIgnored).reverse.dropWhile isIgnored).reverse

def digitValue? (radix : Nat) (character : Char) : Option Nat :=
  let value :=
    if character.isDigit then character.toNat - '0'.toNat
    else if 'a' ≤ character ∧ character ≤ 'f' then character.toNat - 'a'.toNat + 10
    else if 'A' ≤ character ∧ character ≤ 'F' then character.toNat - 'A'.toNat + 10
    else radix
  if value < radix then some value else none

def readDigits? (radix : Nat) (characters : List Char) : Option Nat := do
  if characters.isEmpty then none
  else
    let values ← characters.mapM (digitValue? radix)
    return values.foldl (fun number value => radix * number + value) 0

def splitSign : List Char → Bool × List Char
  | '-' :: rest => (true, rest)
  | '+' :: rest => (false, rest)
  | rest => (false, rest)

def readExponent? : List Char → Option Int
  | [] => some 0
  | mark :: rest =>
    if mark = 'e' ∨ mark = 'E' then do
      let (negative, rest) := splitSign rest
      let exponent ← readDigits? 10 rest
      return if negative then -exponent else exponent
    else none

/-- Beyond this power of ten every number of the given digits is zero or infinite. -/
def clampExponent (exponent : Int) (digits : Nat) : Int :=
  let bound : Int := 400 + digits
  if exponent < -bound then -bound else if bound < exponent then bound else exponent

def decimal (digits : List Char) (exponent : Int) : Float :=
  let significand := (readDigits? 10 digits).getD 0
  let exponent := clampExponent exponent digits.length
  if exponent < 0 then Float.ofScientific significand true exponent.natAbs
  else Float.ofScientific significand false exponent.natAbs

def readDecimal? (characters : List Char) : Option Float := do
  let whole := characters.takeWhile Char.isDigit
  let rest := characters.dropWhile Char.isDigit
  let (fraction, rest) := match rest with
    | '.' :: rest => (rest.takeWhile Char.isDigit, rest.dropWhile Char.isDigit)
    | rest => ([], rest)
  if whole.isEmpty && fraction.isEmpty then none
  else
    let exponent ← readExponent? rest
    return decimal (whole ++ fraction) (exponent - fraction.length)

def read? (text : String) : Option Float :=
  match trim text.toList with
  | [] => some 0.0
  | '0' :: mark :: rest =>
    if mark = 'x' ∨ mark = 'X' then (readDigits? 16 rest).map (decimalOfNat ·)
    else if mark = 'o' ∨ mark = 'O' then (readDigits? 8 rest).map (decimalOfNat ·)
    else if mark = 'b' ∨ mark = 'B' then (readDigits? 2 rest).map (decimalOfNat ·)
    else readDecimal? ('0' :: mark :: rest)
  | characters =>
    let (negative, rest) := splitSign characters
    let magnitude :=
      if rest = "Infinity".toList then some (1.0 / 0.0) else readDecimal? rest
    magnitude.map fun number => if negative then -number else number
where
  decimalOfNat (number : Nat) : Float := Float.ofScientific number false 0

def readWhole? (text : String) : Option Int :=
  match trim text.toList with
  | [] => some 0
  | '0' :: mark :: rest =>
    if mark = 'x' ∨ mark = 'X' then (readDigits? 16 rest).map Int.ofNat
    else if mark = 'o' ∨ mark = 'O' then (readDigits? 8 rest).map Int.ofNat
    else if mark = 'b' ∨ mark = 'B' then (readDigits? 2 rest).map Int.ofNat
    else (readDigits? 10 ('0' :: mark :: rest)).map Int.ofNat
  | characters =>
    let (negative, rest) := splitSign characters
    (readDigits? 10 rest).map fun number => if negative then -number else number

/-- Compares a whole number with a finite or infinite float exactly. -/
def compareWhole (whole : Int) (number : Float) : Ordering :=
  if number.isInf then if number < 0.0 then .gt else .lt
  else
    let bits := number.toBits.toNat
    let binary := Decimal.Binary.ofBits (bits % signBit)
    let significand : Int :=
      if signBit ≤ bits then -binary.significand else binary.significand
    compare (whole * Int.ofNat (Decimal.pow2 (-binary.exponent)))
      (significand * Int.ofNat (Decimal.pow2 binary.exponent))

end ScriptedShell.Script.Number
