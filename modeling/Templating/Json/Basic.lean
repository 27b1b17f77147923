import Templating.Number.Style

/-!
JSON trees and their compact text.

Whole numbers and floating-point numbers are kept apart.  An object is the list of its members
in the order in which they are written.
-/

namespace Templating

inductive Json where
  | null
  | bool (value : Bool)
  | int (value : Int)
  | float (value : Binary64)
  | text (value : String)
  | array (items : List Json)
  | object (members : List (String × Json))
deriving Repr

namespace Json

instance : Inhabited Json := ⟨.null⟩

def hexDigit (value : Nat) : Char :=
  (Nat.digitChar (value % 16))

/-- A character inside a quoted text: quotes, backslashes and control characters are escaped,
all others stand for themselves. -/
def escape (character : Char) : List Char :=
  match character with
  | '"' => ['\\', '"']
  | '\\' => ['\\', '\\']
  | '\n' => ['\\', 'n']
  | '\r' => ['\\', 'r']
  | '\t' => ['\\', 't']
  | _ =>
      if character.toNat = 8 then ['\\', 'b']
      else if character.toNat = 12 then ['\\', 'f']
      else if character.toNat < 32 then
        ['\\', 'u', '0', '0', hexDigit (character.toNat / 16), hexDigit character.toNat]
      else [character]

def quote (value : String) : List Char :=
  '"' :: value.toList.flatMap escape ++ ['"']

/-- Numbers without a decimal form are written as `null`. -/
def printFloat (value : Binary64) : List Char :=
  if value.isFinite then (value.render .json).toList else "null".toList

mutual

/-- The compact text of a tree. -/
def print : Json → List Char
  | .null => "null".toList
  | .bool true => "true".toList
  | .bool false => "false".toList
  | .int value => (toString value).toList
  | .float value => printFloat value
  | .text value => quote value
  | .array [] => ['[', ']']
  | .array (first :: rest) => '[' :: (print first ++ printItems rest)
  | .object [] => ['{', '}']
  | .object (first :: rest) => '{' :: (printMember first ++ printMembers rest)

def printItems : List Json → List Char
  | [] => [']']
  | item :: rest => ',' :: (print item ++ printItems rest)

def printMember : String × Json → List Char
  | (name, value) => quote name ++ ':' :: print value

def printMembers : List (String × Json) → List Char
  | [] => ['}']
  | member :: rest => ',' :: (printMember member ++ printMembers rest)

end

def compact (tree : Json) : String :=
  String.ofList tree.print

end Json
end Templating
