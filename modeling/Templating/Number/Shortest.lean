import Templating.Number.Binary64

/-!
The fewest decimal digits that identify a binary number.

The reals that round to a number form an interval around it, which contains its ends when the
significand is even.  Decimal grids are tried from the coarsest on: the first grid on which one
of the two neighbours of the value lies in the interval gives the digits.  All comparisons are
between whole numbers over one common denominator.
-/

namespace Templating

/-- The number `digits * 10 ^ exponent`. -/
structure Decimal where
  digits : Nat
  exponent : Int
deriving DecidableEq, Repr

namespace Decimal

/-- Which of two equally near decimals is taken. -/
inductive Tie where
  | toEven
  | upward
deriving DecidableEq, Repr

/-- How many decimal digits a number is written with. -/
def length (number : Nat) : Nat :=
  (Nat.toDigits 10 number).length

/-- The exponent of the first digit of a positive quotient. -/
def leadingPower (numerator denominator : Nat) : Int :=
  if denominator ≤ numerator then
    (length (numerator / denominator) : Int) - 1
  else
    -(length ((denominator + numerator - 1) / numerator - 1) : Int)

/-- Drops the zeros that end `digits`; `count` bounds how many. -/
def dropZeros : Nat → Nat → Int → Decimal
  | 0, digits, exponent => ⟨digits, exponent⟩
  | count + 1, digits, exponent =>
      if digits ≠ 0 ∧ digits % 10 = 0 then dropZeros count (digits / 10) (exponent + 1)
      else ⟨digits, exponent⟩

/-- The reals that round to a positive number: `lower / denominator` to `upper / denominator`
around `value / denominator`. -/
structure Interval where
  lower : Nat
  value : Nat
  upper : Nat
  denominator : Nat
  closed : Bool

/-- Quarters of the unit of the significand make all three points whole.  Below a power of two
the numbers lie twice as close. -/
def Interval.around (significand : Nat) (exponent : Int) : Interval :=
  let low := if significand = Binary64.hiddenBit ∧ -1074 < exponent then 1 else 2
  let scale : Int := exponent - 2
  let factor := if 0 ≤ scale then 1 <<< scale.toNat else 1
  { lower := (4 * significand - low) * factor
    value := 4 * significand * factor
    upper := (4 * significand + 2) * factor
    denominator := if 0 ≤ scale then 1 else 1 <<< (-scale).toNat
    closed := significand % 2 = 0 }

/-- Whether `count / per` lies in the interval, `per` being the grid's unit inverted. -/
def Interval.holds (interval : Interval) (count unit per : Nat) : Bool :=
  let point := count * unit * interval.denominator
  if interval.closed then
    interval.lower * per ≤ point && point ≤ interval.upper * per
  else
    interval.lower * per < point && point < interval.upper * per

/-- The point of the grid of `10 ^ exponent` that stands for the value: of the two neighbours
the one in the interval, of two in the interval the nearer. -/
def onGrid? (interval : Interval) (tie : Tie) (exponent : Int) : Option Decimal :=
  let unit := Nat.pow 10 exponent.toNat
  let per := Nat.pow 10 (-exponent).toNat
  let below := interval.value * per / (unit * interval.denominator)
  let remainder := 2 * (interval.value * per % (unit * interval.denominator))
  let lowHolds := interval.holds below unit per
  let highHolds := interval.holds (below + 1) unit per
  let step := unit * interval.denominator
  let highNearer :=
    step < remainder ||
      (remainder = step && (match tie with
        | .toEven => below % 2 = 1
        | .upward => true))
  if lowHolds && highHolds then some ⟨if highNearer then below + 1 else below, exponent⟩
  else if lowHolds then some ⟨below, exponent⟩
  else if highHolds then some ⟨below + 1, exponent⟩
  else none

/-- The shortest decimal that identifies `significand * 2 ^ exponent`. -/
def shortest (tie : Tie) (significand : Nat) (exponent : Int) : Decimal :=
  if significand = 0 then ⟨0, 0⟩
  else
    let interval := Interval.around significand exponent
    let leading := leadingPower interval.value interval.denominator
    let found := (List.range 17).findSome? fun (more : Nat) =>
      onGrid? interval tie (leading - more)
    match found with
    | some decimal => dropZeros 17 decimal.digits decimal.exponent
    | none => ⟨significand, exponent⟩

end Decimal
end Templating
