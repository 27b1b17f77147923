import Templating.Fields
import Templating.Json.Basic
import Templating.Json.Node
import Templating.Number.Scaled

/-!
JSON trees read from text.

A tree is stricter than the grammar: every quoted text names a string, every number is within
the range of its kind, and at most `maxDepth` brackets are open at once.  The members of an
object are ordered by name, and of members with one name the last stays.
-/

namespace Templating.Json

/-- How many brackets may be open at once. -/
def maxDepth : Nat := 127

/-- Takes digits as long as the number that they make fits a word of 64 bits, and gives the
number and the digits that are left. -/
def leading (value : Nat) : List Nat → Nat × List Nat
  | [] => (value, [])
  | digit :: rest =>
      if 10 * value + digit < UInt64.size then leading (10 * value + digit) rest
      else (value, digit :: rest)

/-- The floating-point number of a numeral, unless it is infinite.  It is made of the digits that
fit a word; those left over in front of the point count as zeros, and those behind it not at
all. -/
def floatOf? (numeral : Numeral) : Option Binary64 :=
  let (whole, skipped) := leading 0 numeral.whole
  let (digits, dropped) := leading whole numeral.fraction
  let scale := numeral.exponent + skipped.length - (numeral.fraction.length - dropped.length)
  Binary64.scaled? numeral.negative digits scale

/-- A whole number that fits one of the two kinds of 64-bit words keeps its value.  Every other
number is a floating-point number; zero with a sign is one too. -/
def ofNumeral? (numeral : Numeral) : Option Json :=
  let magnitude := numeral.wholeValue
  let value : Int := if numeral.negative then -magnitude else magnitude
  let signedZero := numeral.negative ∧ magnitude = 0
  let fits := Int64.minValue.toInt ≤ value ∧ value < UInt64.size
  if numeral.isWhole ∧ ¬signedZero ∧ fits then some (.int value)
  else (floatOf? numeral).map .float

mutual

/-- The tree of a node, if `depth` brackets may still be opened. -/
def ofNode? (depth : Nat) : Node → Option Json
  | .null => some .null
  | .bool value => some (.bool value)
  | .number value => ofNumeral? value
  | .text value => value.map .text
  | .array items =>
      match depth with
      | 0 => none
      | depth + 1 => (itemsOfNodes? depth items).map .array
  | .object members =>
      match depth with
      | 0 => none
      | depth + 1 => do
          let members ← membersOfNodes? depth members
          some (.object (Fields.ofList members).entries)

def itemsOfNodes? (depth : Nat) : List Node → Option (List Json)
  | [] => some []
  | node :: rest => do
      let item ← ofNode? depth node
      let items ← itemsOfNodes? depth rest
      some (item :: items)

def membersOfNodes? (depth : Nat) : List (Option String × Node) → Option (List (String × Json))
  | [] => some []
  | (name, node) :: rest => do
      let name ← name
      let value ← ofNode? depth node
      let members ← membersOfNodes? depth rest
      some ((name, value) :: members)

end

def parse? (source : String) : Option Json := do
  let node ← Node.ofString? source
  ofNode? maxDepth node

end Templating.Json
