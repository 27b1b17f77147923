/-!
Places in the text of a document, and the characters that separate its words.

Lines and columns count characters and offsets count bytes, since the length of a key is limited
in bytes.
-/

namespace Templating.Yaml

def isBlank (character : Char) : Bool :=
  character = ' ' || character = '\t'

/-- The characters that end a line.  The other ones are written as line feeds by `normalBreaks`. -/
def isBreak (character : Char) : Bool :=
  character = '\n' || character = Char.ofNat 0x2028 || character = Char.ofNat 0x2029

/-- Writes carriage returns, with the line feed after one, and next-line characters as line
feeds. -/
def normalBreaks : List Char → List Char
  | [] => []
  | '\r' :: '\n' :: rest => '\n' :: normalBreaks rest
  | character :: rest =>
      (if character = '\r' || character = Char.ofNat 0x85 then '\n' else character) ::
        normalBreaks rest

/-- Whether a word ends here. -/
def endsWord : List Char → Bool
  | [] => true
  | character :: _ => isBlank character || isBreak character

/-- The characters that end a plain scalar between brackets. -/
def isFlowIndicator (character : Char) : Bool :=
  character = ',' || character = '[' || character = ']' || character = '\x7b' || character = '\x7d'

structure Place where
  line : Nat
  column : Nat
  offset : Nat
deriving DecidableEq, Repr

namespace Place

def origin : Place := ⟨0, 0, 0⟩

def pass (place : Place) (character : Char) : Place :=
  let offset := place.offset + character.utf8Size
  if isBreak character then ⟨place.line + 1, 0, offset⟩
  else ⟨place.line, place.column + 1, offset⟩

end Place

/-- The rest of a text and the place at which it starts. -/
structure Cursor where
  place : Place
  rest : List Char
deriving DecidableEq, Repr

namespace Cursor

def column (cursor : Cursor) : Nat :=
  cursor.place.column

def skip (cursor : Cursor) (count : Nat) : Cursor :=
  ⟨(cursor.rest.take count).foldl Place.pass cursor.place, cursor.rest.drop count⟩

/-- Whether a line starts with three marks of a kind, which separate documents. -/
def isAtMarks (cursor : Cursor) (mark : Char) : Bool :=
  cursor.column = 0 && cursor.rest.take 3 = [mark, mark, mark] && endsWord (cursor.rest.drop 3)

/-- Whether a document starts or ends here. -/
def isAtBoundary (cursor : Cursor) : Bool :=
  cursor.isAtMarks '-' || cursor.isAtMarks '.'

end Cursor
end Templating.Yaml
