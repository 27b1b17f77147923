import Templating.Number.Shortest

/-!
How a binary number is written in decimal.

`Binary64.render` lays out the shortest digits by a `NumberStyle`, a record of the decisions
that differ between formats: where positional writing ends, whether a whole number keeps a
point, and how an exponent is marked.
-/

namespace Templating

/-- The decisions of a decimal format. -/
structure NumberStyle where
  /-- The exponents of the first digit that are written positionally; all, if absent. -/
  positional : Option (Int × Int)
  /-- Whether a whole number ends in `.0`. -/
  pointZero : Bool
  /-- Whether a positive exponent has a plus sign. -/
  plusExponent : Bool
  tie : Decimal.Tie
deriving DecidableEq, Repr

namespace NumberStyle

/-- Never an exponent and never a superfluous point. -/
def display : NumberStyle where
  positional := none
  pointZero := false
  plusExponent := false
  tie := .upward

/-- Positional from `0.00001` up to sixteen digits, otherwise with a signed exponent. -/
def json : NumberStyle where
  positional := some (-5, 15)
  pointZero := true
  plusExponent := true
  tie := .toEven

/-- Positional from `0.0001` up to sixteen digits, otherwise with an exponent whose sign is
written only when it is negative. -/
def inspect : NumberStyle where
  positional := some (-4, 15)
  pointZero := true
  plusExponent := false
  tie := .upward

def zeros (count : Nat) : String :=
  String.ofList (List.replicate count '0')

/-- Writes the digits around the point, the first of them at `10 ^ leading`. -/
def layPositional (style : NumberStyle) (digits : List Char) (leading : Int) : String :=
  if leading < 0 then
    "0." ++ zeros (-leading - 1).toNat ++ String.ofList digits
  else
    let whole := leading.toNat + 1
    if digits.length ≤ whole then
      let ending := if style.pointZero then ".0" else ""
      String.ofList digits ++ zeros (whole - digits.length) ++ ending
    else
      String.ofList (digits.take whole) ++ "." ++ String.ofList (digits.drop whole)

/-- Writes one digit before the point and the power of ten after the rest. -/
def layExponent (style : NumberStyle) (digits : List Char) (leading : Int) : String :=
  let rest := digits.drop 1
  String.ofList (digits.take 1) ++
    (if rest.isEmpty then "" else "." ++ String.ofList rest) ++
    (if style.plusExponent && 0 ≤ leading then "e+" else "e") ++ toString leading

/-- Writes a decimal without its sign. -/
def lay (style : NumberStyle) (decimal : Decimal) : String :=
  let digits := Nat.toDigits 10 decimal.digits
  let leading := decimal.exponent + digits.length - 1
  match style.positional with
  | none => style.layPositional digits leading
  | some (lowest, highest) =>
      if lowest ≤ leading ∧ leading ≤ highest then style.layPositional digits leading
      else style.layExponent digits leading

end NumberStyle

def Binary64.render (style : NumberStyle) (number : Binary64) : String :=
  let sign := if number.isNegative then "-" else ""
  match number.decode with
  | .notANumber => "NaN"
  | .infinite => sign ++ "inf"
  | .finite significand exponent =>
      sign ++ style.lay (Decimal.shortest style.tie significand exponent)

end Templating
