/-!
Binary floating-point numbers of 64 bits.

A number is its bit pattern, so two numbers are the same value of the type exactly when they
agree bit for bit.  The comparison that treats the two zeros as equal and a not-a-number as
different from everything is `Binary64.equals`.  `decode` reads a pattern as a whole
significand times a power of two, and `ofRatio` and `ofDecimal` round an exact quotient to the
nearest pattern, a tie going to the even one.
-/

namespace Templating

/-- A floating-point number, given by its bit pattern. -/
structure Binary64 where
  bits : UInt64
deriving DecidableEq, Repr

namespace Binary64

instance : Inhabited Binary64 := ⟨⟨0⟩⟩

/-- What a pattern stands for, its sign apart: `significand * 2 ^ exponent`, or no number. -/
inductive Magnitude where
  | finite (significand : Nat) (exponent : Int)
  | infinite
  | notANumber
deriving DecidableEq, Repr

/-- The power of two from which on a significand has all its fifty-three bits. -/
def hiddenBit : Nat := 1 <<< 52

def signBit : Nat := 1 <<< 63

/-- The leading bit is the sign. -/
def isNegative (number : Binary64) : Bool :=
  signBit ≤ number.bits.toNat

def exponentField (number : Binary64) : Nat :=
  number.bits.toNat / hiddenBit % 2048

def fractionField (number : Binary64) : Nat :=
  number.bits.toNat % hiddenBit

/-- A number with an exponent field of zero has no hidden leading bit. -/
def decode (number : Binary64) : Magnitude :=
  if number.exponentField = 2047 then
    if number.fractionField = 0 then .infinite else .notANumber
  else if number.exponentField = 0 then
    .finite number.fractionField (-1074)
  else
    .finite (hiddenBit + number.fractionField) (number.exponentField - 1075)

def isFinite (number : Binary64) : Bool :=
  number.exponentField ≠ 2047

def isNotANumber (number : Binary64) : Bool :=
  number.exponentField = 2047 && number.fractionField ≠ 0

def isZero (number : Binary64) : Bool :=
  number.exponentField = 0 && number.fractionField = 0

/-- Equality of numbers: the zeros are equal, and a not-a-number equals nothing. -/
def equals (left right : Binary64) : Bool :=
  !left.isNotANumber && !right.isNotANumber &&
    (left = right || (left.isZero && right.isZero))

/-- The pattern of a sign and of the sixty-three bits after it. -/
def ofSignAndRest (negative : Bool) (rest : Nat) : Binary64 :=
  ⟨UInt64.ofNat ((if negative then signBit else 0) + rest)⟩

def zero (negative : Bool) : Binary64 :=
  ofSignAndRest negative 0

def infinity (negative : Bool) : Binary64 :=
  ofSignAndRest negative (2047 * hiddenBit)

/-- The quotient rounded to a whole number, a half going to the even neighbour. -/
def roundToEven (numerator denominator : Nat) : Nat :=
  let quotient := numerator / denominator
  let doubled := 2 * (numerator % denominator)
  if doubled < denominator then quotient
  else if denominator < doubled then quotient + 1
  else quotient + quotient % 2

/-- The power of two at or below a positive quotient. -/
def leadingExponent (numerator denominator : Nat) : Int :=
  let guess : Int := numerator.log2 - denominator.log2
  let below :=
    if 0 ≤ guess then numerator < denominator <<< guess.toNat
    else numerator <<< (-guess).toNat < denominator
  if below then guess - 1 else guess

/-- The number nearest to a quotient.  Counting patterns upwards from zero, the significand
that rounding gives is added to the patterns of the smaller exponents, so that a significand
which rounds up to the next power of two carries into the exponent by itself. -/
def ofRatio (negative : Bool) (numerator denominator : Nat) : Binary64 :=
  if numerator = 0 then zero negative
  else
    let exponent : Int := max (leadingExponent numerator denominator - 52) (-1074)
    let significand :=
      if 0 ≤ exponent then roundToEven numerator (denominator <<< exponent.toNat)
      else roundToEven (numerator <<< (-exponent).toNat) denominator
    let rest := (exponent + 1074).toNat * hiddenBit + significand
    if 2047 * hiddenBit ≤ rest then infinity negative else ofSignAndRest negative rest

def ofInt (value : Int) : Binary64 :=
  ofRatio (value < 0) value.natAbs 1

/-- The number nearest to `digits * 10 ^ exponent`.  Far outside the range of the numbers the
answer is settled by the count of digits, and no power of ten is computed. -/
def ofDecimal (negative : Bool) (digits : Nat) (exponent : Int) : Binary64 :=
  let scale : Int := exponent + digits.log2
  if digits = 0 then zero negative
  else if 2000 < exponent then infinity negative
  else if scale < -2000 then zero negative
  else if 0 ≤ exponent then ofRatio negative (digits * Nat.pow 10 exponent.toNat) 1
  else ofRatio negative digits (Nat.pow 10 (-exponent).toNat)

end Binary64
end Templating
