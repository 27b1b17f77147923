import Templating.Json.Node
import Templating.Proofs.Json.Scanner
import Templating.Proofs.Number.Layout

/-!
Trees that are written and read back.

The text of a tree is scanned to the tokens of its node, and the tokens of a node are parsed to the node.
-/

namespace Templating.Json

open Token

/-! ## From tokens to nodes -/

namespace Node

mutual

/-- The tokens that a node is read from. -/
def tokens : Node → List Token
  | .null => [.null]
  | .bool value => [.bool value]
  | .number value => [.number value]
  | .text value => [.text value]
  | .array [] => [.openArray, .closeArray]
  | .array (first :: rest) => .openArray :: (tokens first ++ itemTokens rest)
  | .object [] => [.openObject, .closeObject]
  | .object (first :: rest) => .openObject :: (memberTokens first ++ membersTokens rest)

def itemTokens : List Node → List Token
  | [] => [.closeArray]
  | item :: rest => .comma :: (tokens item ++ itemTokens rest)

def memberTokens : Option String × Node → List Token
  | (name, node) => .text name :: .colon :: tokens node

def membersTokens : List (Option String × Node) → List Token
  | [] => [.closeObject]
  | member :: rest => .comma :: (memberTokens member ++ membersTokens rest)

end

/-- No value starts with a bracket that closes, so that an item may stand where a bracket may. -/
theorem parse?_itemOrClose (node : Node) (frames : List Frame) (rest : List Token) :
    parse? (.itemOrClose frames) (node.tokens ++ rest) =
      parse? (.value (.array [] :: frames)) (node.tokens ++ rest) := by
  cases node with
  | array items => cases items <;> rfl
  | object members => cases members <;> rfl
  | _ => rfl

mutual

theorem parse?_tokens (node : Node) (frames : List Frame) (rest : List Token) :
    parse? (.value frames) (node.tokens ++ rest) = parse? (.complete node frames) rest :=
  match node with
  | .null | .bool _ | .number _ | .text _ | .array [] | .object [] => by
      simp [tokens, parse?, step?, begin?]
  | .array (first :: items) => by
      have opens : parse? (.value frames) (tokens (.array (first :: items)) ++ rest) =
          parse? (.itemOrClose frames) (first.tokens ++ (itemTokens items ++ rest)) := by
        simp [tokens, parse?, step?, begin?]
      rw [opens, parse?_itemOrClose, parse?_tokens first, parse?_itemTokens items]
      rfl
  | .object ((name, first) :: members) => by
      have opens : parse? (.value frames) (tokens (.object ((name, first) :: members)) ++ rest) =
          parse? (.value (.object [] name :: frames))
            (first.tokens ++ (membersTokens members ++ rest)) := by
        simp [tokens, memberTokens, parse?, step?, begin?]
      rw [opens, parse?_tokens first, parse?_membersTokens members]
      rfl

/-- An array that has an item goes on with more items and closes. -/
theorem parse?_itemTokens (items : List Node) (item : Node) (done : List Node) (frames : List Frame)
    (rest : List Token) :
    parse? (.complete item (.array done :: frames)) (itemTokens items ++ rest) =
      parse? (.complete (.array (done.reverse ++ item :: items)) frames) rest :=
  match items with
  | [] => by simp [itemTokens, parse?, step?, resume?]
  | next :: items => by
      have goesOn : parse? (.complete item (.array done :: frames)) (itemTokens (next :: items) ++ rest) =
          parse? (.value (.array (item :: done) :: frames))
            (next.tokens ++ (itemTokens items ++ rest)) := by
        simp [itemTokens, parse?, step?, resume?]
      rw [goesOn, parse?_tokens next, parse?_itemTokens items]
      simp

theorem parse?_membersTokens (members : List (Option String × Node)) (node : Node)
    (name : Option String) (done : List (Option String × Node)) (frames : List Frame)
    (rest : List Token) :
    parse? (.complete node (.object done name :: frames)) (membersTokens members ++ rest) =
      parse? (.complete (.object (done.reverse ++ (name, node) :: members)) frames) rest :=
  match members with
  | [] => by simp [membersTokens, parse?, step?, resume?]
  | (other, next) :: members => by
      have goesOn : parse? (.complete node (.object done name :: frames))
          (membersTokens ((other, next) :: members) ++ rest) =
          parse? (.value (.object ((name, node) :: done) other :: frames))
            (next.tokens ++ (membersTokens members ++ rest)) := by
        simp [membersTokens, memberTokens, parse?, step?, resume?]
      rw [goesOn, parse?_tokens next, parse?_membersTokens members]
      simp

end

theorem ofTokens?_tokens (node : Node) : ofTokens? node.tokens = some node := by
  have parses := parse?_tokens node [] []
  rw [List.append_nil] at parses
  exact parses

end Node

/-! ## From trees to tokens -/

mutual

/-- What is read of the text of a tree. -/
def node : Json → Node
  | .null => .null
  | .bool value => .bool value
  | .int value => .number (Numeral.ofInt value)
  | .float value =>
      match Numeral.ofChars? (printFloat value) with
      | some numeral => .number numeral
      | none => .null
  | .text value => .text (some value)
  | .array items => .array (nodes items)
  | .object members => .object (memberNodes members)

def nodes : List Json → List Node
  | [] => []
  | item :: rest => node item :: nodes rest

def memberNodes : List (String × Json) → List (Option String × Node)
  | [] => []
  | (name, value) :: rest => (some name, node value) :: memberNodes rest

end

theorem scans_printFloat (value : Binary64) : Scans (printFloat value) (node (.float value)).tokens := by
  unfold node
  cases finite : value.isFinite with
  | true =>
      obtain ⟨numeral, reads⟩ := Binary64.exists_ofChars?_render finite
      have written : printFloat value = (value.render .json).toList := by simp [printFloat, finite]
      rw [written, reads]
      exact scans_numeral reads
  | false =>
      have written : printFloat value = ['n', 'u', 'l', 'l'] := by
        simp [printFloat, finite]
      have unread : Numeral.ofChars? ['n', 'u', 'l', 'l'] = none := by decide
      rw [written, unread]
      exact scans_word rfl (List.all_eq_true.mp rfl) rfl

theorem delimits_printItems (items : List Json) : Delimits (printItems items) := by
  cases items <;> exact delimits_of_punctuation rfl

theorem delimits_printMembers (members : List (String × Json)) : Delimits (printMembers members) := by
  cases members <;> exact delimits_of_punctuation rfl

mutual

theorem scans_print (tree : Json) : Scans tree.print tree.node.tokens :=
  match tree with
  | .null | .bool true | .bool false => scans_word rfl (List.all_eq_true.mp rfl) rfl
  | .int value => scans_numeral (Numeral.ofChars?_toString value)
  | .float value => scans_printFloat value
  | .text value => scans_quote value
  | .array [] | .object [] => .punctuation rfl (.punctuation rfl scans_nil)
  | .array (first :: rest) =>
      .punctuation rfl ((scans_print first).append (scans_printItems rest) (delimits_printItems rest))
  | .object (first :: rest) =>
      .punctuation rfl
        ((scans_printMember first).append (scans_printMembers rest) (delimits_printMembers rest))

theorem scans_printItems (items : List Json) :
    Scans (printItems items) (Node.itemTokens (nodes items)) :=
  match items with
  | [] => .punctuation rfl scans_nil
  | item :: rest =>
      .punctuation rfl ((scans_print item).append (scans_printItems rest) (delimits_printItems rest))

theorem scans_printMember (member : String × Json) :
    Scans (printMember member) (Node.memberTokens (some member.1, member.2.node)) :=
  match member with
  | (name, value) =>
      (scans_quote name).append (.punctuation rfl (scans_print value)) (delimits_of_punctuation rfl)

theorem scans_printMembers (members : List (String × Json)) :
    Scans (printMembers members) (Node.membersTokens (memberNodes members)) :=
  match members with
  | [] => .punctuation rfl scans_nil
  | member :: rest =>
      .punctuation rfl
        ((scans_printMember member).append (scans_printMembers rest) (delimits_printMembers rest))

end

/-- What is written of a tree is read as its node. -/
theorem ofString?_compact (tree : Json) : Node.ofString? tree.compact = some tree.node := by
  have scanned : scan? tree.print = some tree.node.tokens := by
    have scans := scans_print tree [] delimits_nil
    simpa [scan?, scanFrom?, finish?] using scans
  simp only [Node.ofString?, compact, String.toList_ofList, scanned]
  exact Node.ofTokens?_tokens tree.node

end Templating.Json
