import Templating.Json.Token

/-!
JSON text read without regard to what its parts stand for.

A `Node` keeps every number as it is written and every member of an object, repeated names
included, so that a reader which skips a part of the document accepts whatever the grammar
accepts there.  `Node.ofTokens?` is one pass over the tokens with the open brackets on a stack.
-/

namespace Templating.Json

inductive Node where
  | null
  | bool (value : Bool)
  | number (value : Numeral)
  | text (value : Option String)
  | array (items : List Node)
  | object (members : List (Option String × Node))
deriving Repr

namespace Node

instance : Inhabited Node := ⟨.null⟩

/-- An open bracket with what it holds so far, last first.  An open object waits for the value
of a name. -/
inductive Frame where
  | array (items : List Node)
  | object (members : List (Option String × Node)) (name : Option String)

/-- What the next token may be. -/
inductive Parser where
  | value (frames : List Frame)
  | itemOrClose (frames : List Frame)
  | nameOrClose (frames : List Frame)
  | name (members : List (Option String × Node)) (frames : List Frame)
  | colon (members : List (Option String × Node)) (name : Option String) (frames : List Frame)
  | complete (node : Node) (frames : List Frame)

/-- A value starts where one is expected. -/
def begin? (frames : List Frame) : Token → Option Parser
  | .null => some (.complete .null frames)
  | .bool value => some (.complete (.bool value) frames)
  | .number value => some (.complete (.number value) frames)
  | .text value => some (.complete (.text value) frames)
  | .openArray => some (.itemOrClose frames)
  | .openObject => some (.nameOrClose frames)
  | _ => none

/-- A value is complete and what holds it goes on or closes. -/
def resume? (node : Node) : List Frame → Token → Option Parser
  | .array items :: frames, .comma => some (.value (.array (node :: items) :: frames))
  | .array items :: frames, .closeArray =>
      some (.complete (.array (node :: items).reverse) frames)
  | .object members name :: frames, .comma => some (.name ((name, node) :: members) frames)
  | .object members name :: frames, .closeObject =>
      some (.complete (.object ((name, node) :: members).reverse) frames)
  | _, _ => none

def step? : Parser → Token → Option Parser
  | .value frames, token => begin? frames token
  | .itemOrClose frames, .closeArray => some (.complete (.array []) frames)
  | .itemOrClose frames, token => begin? (.array [] :: frames) token
  | .nameOrClose frames, .closeObject => some (.complete (.object []) frames)
  | .nameOrClose frames, .text name => some (.colon [] name frames)
  | .nameOrClose _, _ => none
  | .name members frames, .text name => some (.colon members name frames)
  | .name _ _, _ => none
  | .colon members name frames, .colon => some (.value (.object members name :: frames))
  | .colon _ _ _, _ => none
  | .complete node frames, token => resume? node frames token

/-- Reads the remaining tokens; the text ends when its one value is complete. -/
def parse? : Parser → List Token → Option Node
  | .complete node [], [] => some node
  | _, [] => none
  | parser, token :: rest => do
      let next ← step? parser token
      parse? next rest

def ofTokens? (tokens : List Token) : Option Node :=
  parse? (.value []) tokens

def ofString? (source : String) : Option Node := do
  let tokens ← Token.scan? source.toList
  ofTokens? tokens

end Node
end Templating.Json
