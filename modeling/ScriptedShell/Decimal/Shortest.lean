/-!
The shortest decimal of a binary number. For each count of digits there is one nearest decimal, and
the count is the least one found whose nearest decimal rounds back to the number. All arithmetic is
exact.
-/

namespace ScriptedShell.Decimal

structure Binary where
  significand : Nat
  exponent : Int
  /-- The gap to the next number below is half the gap above. -/
  narrowBelow : Bool
deriving DecidableEq, Repr

/-- The decimal `0.d₁d₂… * 10 ^ point`, where `digits` is the number `d₁d₂…` of `count` digits. -/
structure Shortest where
  digits : Nat
  count : Nat
  point : Int
deriving DecidableEq, Repr

def Binary.ofBits (bits : Nat) : Binary :=
  let biased := bits / Nat.pow 2 52
  let fraction := bits % Nat.pow 2 52
  if biased = 0 then ⟨fraction, -1074, false⟩
  else ⟨Nat.pow 2 52 + fraction, Int.ofNat biased - 1075, fraction = 0 ∧ 1 < biased⟩

def pow10 (exponent : Int) : Nat :=
  Nat.pow 10 exponent.toNat

def pow2 (exponent : Int) : Nat :=
  Nat.pow 2 exponent.toNat

/-- The greatest power of ten that is at most `numerator / denominator`, searched from a guess that
is off by at most `slack`. -/
def magnitude (numerator denominator : Nat) (guess : Int) (slack : Nat) : Int :=
  let candidates := (List.range (2 * slack + 1)).map fun offset => guess + slack - Int.ofNat offset
  let fits := fun power => denominator * pow10 power ≤ numerator * pow10 (-power)
  (candidates.find? fits).getD (guess - slack)

structure Grid where
  numerator : Nat
  denominator : Nat
  low : Nat
  high : Nat
  closed : Bool

/-- Four times the number and the ends of the interval that rounds to it, over one denominator, with
the unit `10 ^ power` as the denominator's other part. -/
def Binary.grid (binary : Binary) (power : Int) : Grid :=
  let scale := pow2 binary.exponent * pow10 (-power)
  { numerator := 4 * binary.significand * scale
    denominator := 4 * (pow2 (-binary.exponent) * pow10 power)
    low := (4 * binary.significand - (if binary.narrowBelow then 1 else 2)) * scale
    high := (4 * binary.significand + 2) * scale
    closed := binary.significand % 2 = 0 }

def Grid.admits (grid : Grid) (factor : Nat) : Bool :=
  let point := factor * grid.denominator
  if grid.closed then grid.low ≤ point && point ≤ grid.high
  else grid.low < point && point < grid.high

def Grid.nearest (grid : Grid) : Nat :=
  let below := grid.numerator / grid.denominator
  let fromBelow := 2 * (grid.numerator % grid.denominator)
  if fromBelow < grid.denominator || (fromBelow = grid.denominator && below % 2 = 0) then below
  else below + 1

def trimZeros : Nat → Nat → Nat
  | 0, digits => digits
  | steps + 1, digits =>
    if digits ≠ 0 ∧ digits % 10 = 0 then trimZeros steps (digits / 10) else digits

def digitCount (number : Nat) : Nat :=
  (Nat.toDigits 10 number).length

/-- Searches the counts of digits from `least` to `most` by halving. A count is enough if its nearest
decimal rounds back; zeros at the end of that decimal need not be counted. -/
def Binary.enough (binary : Binary) (power : Int) : Nat → Nat → Nat → Nat
  | 0, _, most => most
  | steps + 1, least, most =>
    if least < most then
      let count := (least + most) / 2
      let grid := binary.grid (power - Int.ofNat count + 1)
      if grid.admits grid.nearest then
        enough binary power steps least (digitCount (trimZeros 20 grid.nearest))
      else enough binary power steps (count + 1) most
    else most

def Binary.shortest (binary : Binary) : Shortest :=
  let numerator := binary.significand * pow2 binary.exponent
  let denominator := pow2 (-binary.exponent)
  let guess := (binary.exponent + Int.ofNat (Nat.log2 binary.significand)) * 30103 / 100000
  let power := magnitude numerator denominator guess 2
  let unit := power - Int.ofNat (binary.enough power 17 1 17) + 1
  let factor := (binary.grid unit).nearest
  let digits := trimZeros 20 factor
  ⟨digits, digitCount digits, digitCount factor + unit⟩

end ScriptedShell.Decimal
