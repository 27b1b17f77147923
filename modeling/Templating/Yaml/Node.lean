/-!
YAML documents: scalars, sequences and mappings.

A node has no tag and no anchor; an alias is the node that it stands for.
-/

namespace Templating.Yaml

/-- Whether a scalar stands between quotes. -/
inductive ScalarStyle where
  | plain
  | quoted
deriving DecidableEq, Repr, Inhabited

inductive Node where
  | scalar (style : ScalarStyle) (text : String)
  | sequence (items : List Node)
  | mapping (entries : List (Node × Node))
deriving Repr

/-- Where nothing stands, there is an empty plain scalar. -/
def Node.absent : Node := .scalar .plain ""

instance : Inhabited Node := ⟨.absent⟩

mutual

def decideNodes : (left right : Node) → Decidable (left = right)
  | .scalar style text, .scalar style' text' =>
      decidable_of_iff (style = style' ∧ text = text') (by simp)
  | .sequence items, .sequence items' =>
      have := decideItems items items'
      decidable_of_iff (items = items') (by simp)
  | .mapping entries, .mapping entries' =>
      have := decideEntries entries entries'
      decidable_of_iff (entries = entries') (by simp)
  | .scalar _ _, .sequence _ | .scalar _ _, .mapping _ | .sequence _, .scalar _ _
  | .sequence _, .mapping _ | .mapping _, .scalar _ _ | .mapping _, .sequence _ =>
      isFalse (by simp)

def decideItems : (left right : List Node) → Decidable (left = right)
  | [], [] => isTrue rfl
  | first :: rest, first' :: rest' =>
      have := decideNodes first first'
      have := decideItems rest rest'
      decidable_of_iff (first = first' ∧ rest = rest') (by simp)
  | [], _ :: _ | _ :: _, [] => isFalse (by simp)

def decideEntries : (left right : List (Node × Node)) → Decidable (left = right)
  | [], [] => isTrue rfl
  | (key, node) :: rest, (key', node') :: rest' =>
      have := decideNodes key key'
      have := decideNodes node node'
      have := decideEntries rest rest'
      decidable_of_iff ((key = key' ∧ node = node') ∧ rest = rest') (by simp)
  | [], _ :: _ | _ :: _, [] => isFalse (by simp)

end

instance : DecidableEq Node := decideNodes

/-- What reads the one document of a text, which may hold none. -/
abbrev Reader (Cause : Type u) :=
  String → Except Cause (Option Node)

end Templating.Yaml
