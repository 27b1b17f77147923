/-!
Sets of characters as runs of code points.

The tables of this folder hold the characters of Unicode 17.
-/

namespace Templating.Text

/-- The first and the last code point of each run, in ascending order. -/
abbrev Runs := List (Nat × Nat)

def Runs.covers (runs : Runs) (character : Char) : Bool :=
  runs.any fun (first, last) => first ≤ character.toNat && character.toNat ≤ last

end Templating.Text
