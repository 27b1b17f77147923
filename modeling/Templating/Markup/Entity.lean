/-!
Encoding of text for HTML.

Five characters are written as entities, all others as they are.  `decode` replaces the five
entities again, in one pass from left to right.
-/

namespace Templating.Entity

/-- The characters that could open or close a tag, an attribute value or an entity. -/
def isSpecial (character : Char) : Bool :=
  character = '&' || character = '<' || character = '>' || character = '"' || character = '\''

def ofChar (character : Char) : List Char :=
  match character with
  | '&' => ['&', 'a', 'm', 'p', ';']
  | '<' => ['&', 'l', 't', ';']
  | '>' => ['&', 'g', 't', ';']
  | '"' => ['&', 'q', 'u', 'o', 't', ';']
  | '\'' => ['&', '#', '3', '9', ';']
  | _ => [character]

def encodeChars (characters : List Char) : List Char :=
  characters.flatMap ofChar

/-- Reads the five entities back; an ampersand that starts none of them stands for itself. -/
def decodeChars : List Char → List Char
  | [] => []
  | '&' :: 'a' :: 'm' :: 'p' :: ';' :: rest => '&' :: decodeChars rest
  | '&' :: 'l' :: 't' :: ';' :: rest => '<' :: decodeChars rest
  | '&' :: 'g' :: 't' :: ';' :: rest => '>' :: decodeChars rest
  | '&' :: 'q' :: 'u' :: 'o' :: 't' :: ';' :: rest => '"' :: decodeChars rest
  | '&' :: '#' :: '3' :: '9' :: ';' :: rest => '\'' :: decodeChars rest
  | character :: rest => character :: decodeChars rest

/-- An encoded text, and whether it is the text itself, passed on untouched. -/
structure Encoded where
  text : String
  untouched : Bool
deriving DecidableEq, Repr

/-- A text without special characters is passed on as it is. -/
def encode (text : String) : Encoded :=
  if text.toList.any isSpecial then ⟨String.ofList (encodeChars text.toList), false⟩
  else ⟨text, true⟩

def decode (text : String) : String :=
  String.ofList (decodeChars text.toList)

end Templating.Entity
