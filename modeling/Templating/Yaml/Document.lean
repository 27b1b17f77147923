import Templating.Yaml.Token

/-!
Documents read from tokens, and a reader for a subset of YAML.

`Document.ofTokens?` is one pass over the tokens with the open collections on a stack.  Where a
token shows that a node is missing, the node is absent, which is the same as an empty plain
scalar.  A text holds one document or none.
-/

namespace Templating.Yaml
namespace Document

/-- What the next node of a mapping is. -/
inductive Slot where
  | key
  /-- A key between braces that has no value. -/
  | loneKey
  | value (key : Node)

/-- An open collection with what it holds so far, last first. -/
inductive Frame where
  | items (items : List Node)
  /-- A sequence in block form whose dashes stand in the column of the key before them. -/
  | itemsUnderKey (items : List Node)
  | brackets (items : List Node)
  /-- A pair between brackets, which is a mapping, and the items in front of it. -/
  | pair (items : List Node) (key : Option Node)
  | entries (entries : List (Node × Node)) (slot : Slot)
  | braces (entries : List (Node × Node)) (slot : Slot)

/-- What the innermost open collection waits for. -/
inductive Turn where
  | node
  /-- An item, or the closing bracket. -/
  | nodeOrClose
  /-- What separates nodes, or the end. -/
  | mark

/-- How far a document is read. -/
inductive Progress where
  | nothing
  | started
  | inside (frame : Frame) (outer : List Frame) (turn : Turn)
  | complete (node : Node)

/-- A node is complete and becomes a part of the innermost open collection. -/
def place (node : Node) : List Frame → Progress
  | [] => .complete node
  | .items items :: outer => .inside (.items (node :: items)) outer .mark
  | .itemsUnderKey items :: outer => .inside (.itemsUnderKey (node :: items)) outer .mark
  | .brackets items :: outer => .inside (.brackets (node :: items)) outer .mark
  | .pair items none :: outer => .inside (.pair items (some node)) outer .mark
  | .pair items (some key) :: outer =>
      .inside (.brackets (.mapping [(key, node)] :: items)) outer .mark
  | .entries entries (.value key) :: outer =>
      .inside (.entries ((key, node) :: entries) .key) outer .mark
  | .entries entries _ :: outer => .inside (.entries entries (.value node)) outer .mark
  | .braces entries (.value key) :: outer =>
      .inside (.braces ((key, node) :: entries) .key) outer .mark
  | .braces entries .loneKey :: outer =>
      .inside (.braces ((node, .absent) :: entries) .key) outer .mark
  | .braces entries .key :: outer => .inside (.braces entries (.value node)) outer .mark

/-- A node starts where one is expected. -/
def begin? (frames : List Frame) : Token → Option Progress
  | .scalar style text => some (place (.scalar style text) frames)
  | .openBracket => some (.inside (.brackets []) frames .nodeOrClose)
  | .openBrace => some (.inside (.braces [] .key) frames .nodeOrClose)
  | .sequenceStart => some (.inside (.items []) frames .mark)
  | .mappingStart => some (.inside (.entries [] .key) frames .mark)
  | _ => none

/-! ## What tokens leave out -/

/-- Whether a token shows that the node which is due is absent. -/
def isAbsentBefore (token : Token) : Frame → Turn → Bool
  | .items _, .node => token = .dash || token = .blockEnd
  | .itemsUnderKey _, .node =>
      token = .dash || token = .key || token = .value || token = .blockEnd
  | .entries _ _, .node => token = .key || token = .value || token = .blockEnd
  | .braces _ (.value _), .node => token = .comma || token = .closeBrace
  | .braces _ _, .node => token = .value || token = .comma || token = .closeBrace
  | .pair _ (some _), .node => token = .comma || token = .closeBracket
  | .entries _ (.value _), .mark | .braces _ (.value _), .mark | .pair _ (some _), .mark =>
      token ≠ .value
  | _, _ => false

def fillAbsent (token : Token) : Progress → Progress
  | .inside frame outer turn =>
      if isAbsentBefore token frame turn then place .absent (frame :: outer)
      else .inside frame outer turn
  | other => other

/-- A sequence under a key has no token of its own that ends it. -/
def closeUnderKey (token : Token) : Progress → Progress
  | .inside (.itemsUnderKey items) outer .mark =>
      if token = .dash then .inside (.itemsUnderKey items) outer .mark
      else place (.sequence items.reverse) outer
  | other => other

/-! ## Tokens -/

/-- A token where a node is due.  A key that is absent from a pair takes the next token with
it. -/
def takeNode? (frame : Frame) (outer : List Frame) (token : Token) : Option Progress :=
  match frame, token with
  | .entries _ _, .dash => some (.inside (.itemsUnderKey []) (frame :: outer) .node)
  | .pair _ none, .value | .pair _ none, .comma | .pair _ none, .closeBracket =>
      some (place .absent (frame :: outer))
  | _, _ => begin? (frame :: outer) token

/-- A token where an item may start or a bracket may close. -/
def takeItem? (frame : Frame) (outer : List Frame) (token : Token) : Option Progress :=
  match frame, token with
  | .brackets items, .closeBracket => some (place (.sequence items.reverse) outer)
  | .brackets items, .key => some (.inside (.pair items none) outer .node)
  | .braces entries _, .closeBrace => some (place (.mapping entries.reverse) outer)
  | .braces entries _, .key => some (.inside (.braces entries .key) outer .node)
  | .braces entries _, _ => begin? (.braces entries .loneKey :: outer) token
  | _, _ => begin? (frame :: outer) token

/-- A token behind a node. -/
def takeMark? (frame : Frame) (outer : List Frame) (token : Token) : Option Progress :=
  match frame, token with
  | .items _, .dash | .itemsUnderKey _, .dash => some (.inside frame outer .node)
  | .items items, .blockEnd => some (place (.sequence items.reverse) outer)
  | .entries _ .key, .key | .entries _ (.value _), .value => some (.inside frame outer .node)
  | .entries entries .key, .blockEnd => some (place (.mapping entries.reverse) outer)
  | .pair _ (some _), .value | .braces _ (.value _), .value => some (.inside frame outer .node)
  | .brackets _, .comma | .braces _ .key, .comma => some (.inside frame outer .nodeOrClose)
  | .brackets items, .closeBracket => some (place (.sequence items.reverse) outer)
  | .braces entries .key, .closeBrace => some (place (.mapping entries.reverse) outer)
  | _, _ => none

/-- Reads a token.  What it leaves out may be a node, the end of a sequence under a key, and
the value of a key which that sequence or node is. -/
def step? (progress : Progress) (token : Token) : Option Progress :=
  match fillAbsent token (closeUnderKey token (fillAbsent token progress)) with
  | .nothing => if token = .documentStart then some .started else begin? [] token
  | .started => if token = .documentEnd then some (.complete .absent) else begin? [] token
  | .complete node => if token = .documentEnd then some (.complete node) else none
  | .inside frame outer turn =>
      match turn with
      | .node => takeNode? frame outer token
      | .nodeOrClose => takeItem? frame outer token
      | .mark => takeMark? frame outer token

/-- The node of the one document, or none where there is no document. -/
def finish? : Progress → Option (Option Node)
  | .nothing => some none
  | .started => some (some .absent)
  | .complete node => some (some node)
  | .inside _ _ _ => none

def ofTokens? (tokens : List Token) : Option (Option Node) := do
  let progress ← tokens.foldlM step? .nothing
  finish? progress

end Document

/-- A reader for the subset of YAML that has no anchors, aliases, tags, literal and folded blocks
and directives.  It fails on a text with any of these, on one with a second document, and on one
that is no document. -/
def readSubset : Reader Unit := fun source =>
  match Token.scan? source.toList >>= Document.ofTokens? with
  | some document => .ok document
  | none => .error ()

end Templating.Yaml
