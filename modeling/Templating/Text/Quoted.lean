import Templating.Text.Extender
import Templating.Text.Ignorable
import Templating.Text.Unseen

/-!
Texts between quotes, as they are shown to developers.

Quotes, backslashes and what cannot be seen by itself are escaped.
-/

namespace Templating.Text

/-- Two signs of sound that follow narrow letters but stand beside them as letters do. -/
def isSoundSign (character : Char) : Bool :=
  character = Char.ofNat 0xff9e || character = Char.ofNat 0xff9f

/-- Whether a character is shown by its number. -/
def isHidden (character : Char) : Bool :=
  if ' ' ≤ character ∧ character ≤ '~' then false
  else
    isUnseen character || isIgnorable character ||
      (isExtender character && !isSoundSign character)

def showChar (character : Char) : List Char :=
  match character with
  | '"' => ['\\', '"']
  | '\\' => ['\\', '\\']
  | '\n' => ['\\', 'n']
  | '\r' => ['\\', 'r']
  | '\t' => ['\\', 't']
  | _ =>
      if character.toNat = 0 then ['\\', '0']
      else if isHidden character then
        ['\\', 'u', '\x7b'] ++ Nat.toDigits 16 character.toNat ++ ['\x7d']
      else [character]

def quoted (text : String) : String :=
  String.ofList ('"' :: text.toList.flatMap showChar ++ ['"'])

end Templating.Text
