import Templating.Number.Binary64

/-!
Decimals that are turned into floating-point numbers step by step.

The digits, the power of ten and the product or quotient of the two are each rounded to the
nearest number.  With few digits and a small power only the last step rounds, and the result is
the nearest number; otherwise it can be a neighbour of that.
-/

namespace Templating.Binary64

/-- The number nearest to `numerator / denominator * 2 ^ exponent`. -/
def ofBinaryRatio (negative : Bool) (numerator denominator : Nat) (exponent : Int) : Binary64 :=
  if 0 ≤ exponent then ofRatio negative (numerator <<< exponent.toNat) denominator
  else ofRatio negative numerator (denominator <<< (-exponent).toNat)

/-- The greatest power of ten that is a finite number. -/
def maxPower : Nat := 308

def powerOfTen (power : Nat) : Binary64 :=
  ofDecimal false 1 power

/-- The product with a power of ten up to `maxPower`. -/
def timesPower (number : Binary64) (power : Nat) : Binary64 :=
  match number.decode, (powerOfTen power).decode with
  | .finite left leftExponent, .finite right rightExponent =>
      ofBinaryRatio number.isNegative (left * right) 1 (leftExponent + rightExponent)
  | _, _ => number

/-- The quotient by a power of ten up to `maxPower`. -/
def overPower (number : Binary64) (power : Nat) : Binary64 :=
  match number.decode, (powerOfTen power).decode with
  | .finite left leftExponent, .finite right rightExponent =>
      ofBinaryRatio number.isNegative left right (leftExponent - rightExponent)
  | _, _ => number

/-- The number `digits * 10 ^ scale`, unless it is infinite.  A very small one takes two
divisions, and what would take more of them is zero, as the digits fit a word of 64 bits. -/
def scaled? (negative : Bool) (digits : Nat) (scale : Int) : Option Binary64 :=
  let number := ofRatio negative digits 1
  let power := scale.natAbs
  if digits = 0 then some (zero negative)
  else if 0 ≤ scale then
    let product := number.timesPower power
    if power ≤ maxPower ∧ product.isFinite then some product else none
  else if power ≤ maxPower then some (number.overPower power)
  else if power ≤ 2 * maxPower then some ((number.overPower maxPower).overPower (power - maxPower))
  else some (zero negative)

end Templating.Binary64
