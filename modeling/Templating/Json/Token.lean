import Templating.Number.Binary64
import Templating.Number.Digit

/-!
The words of JSON text.

`Token.scan?` reads a text from left to right with a machine of four states.  A number, a word
or a quoted text is collected as it stands and decoded once it is complete.  A quoted text may
hold an escaped half of a surrogate pair without its other half: such a text is a token, but it
names no string.
-/

namespace Templating.Json

/-- A number as it is written: the digits on both sides of the point, and the power of ten that
they are multiplied by.  A whole number has neither a point nor an exponent. -/
structure Numeral where
  negative : Bool
  whole : List Nat
  fraction : List Nat
  exponent : Int
  isWhole : Bool
deriving DecidableEq, Repr

/-- `text none` is a quoted text that names no string. -/
inductive Token where
  | openArray
  | closeArray
  | openObject
  | closeObject
  | comma
  | colon
  | null
  | bool (value : Bool)
  | number (value : Numeral)
  | text (value : Option String)
deriving DecidableEq, Repr

namespace Numeral

def digit (character : Char) : Nat :=
  character.toNat - '0'.toNat

def valueOf (digits : List Nat) : Nat :=
  digits.foldl (fun value digit => 10 * value + digit) 0

def wholeValue (numeral : Numeral) : Nat :=
  valueOf numeral.whole

/-- The exponent that ends a number, with an optional sign. -/
def exponent? : List Char → Option Int
  | [] => some 0
  | mark :: rest =>
      if mark = 'e' ∨ mark = 'E' then
        let negative := rest.head? = some '-'
        let digits := if negative ∨ rest.head? = some '+' then rest.drop 1 else rest
        if digits ≠ [] ∧ digits.all Char.isDigit then
          let value := valueOf (digits.map digit)
          some (if negative then -(value : Int) else value)
        else none
      else none

/-- The fraction of a number, if there is one, and what follows it. -/
def fraction? : List Char → Option (List Char × List Char)
  | '.' :: rest =>
      let digits := rest.takeWhile Char.isDigit
      if digits = [] then none else some (digits, rest.dropWhile Char.isDigit)
  | rest => some ([], rest)

/-- Reads a complete number.  A row of several digits does not start with a zero. -/
def ofChars? (characters : List Char) : Option Numeral :=
  let negative := characters.head? = some '-'
  let unsigned := if negative then characters.drop 1 else characters
  let whole := unsigned.takeWhile Char.isDigit
  let rest := unsigned.dropWhile Char.isDigit
  if whole = [] ∨ (whole.head? = some '0' ∧ whole.length ≠ 1) then none
  else do
    let (fraction, rest') ← fraction? rest
    let exponent ← exponent? rest'
    some
      { negative
        whole := whole.map digit
        fraction := fraction.map digit
        exponent
        isWhole := rest.isEmpty }

end Numeral

namespace Quoted

/-- A character that stands for itself, or the number of an escape of four digits. -/
inductive Piece where
  | character (value : Char)
  | code (value : Nat)
deriving DecidableEq, Repr

/-- The character that a short escape stands for. -/
def shortEscape? : Char → Option Char
  | '"' => some '"'
  | '\\' => some '\\'
  | '/' => some '/'
  | 'b' => some (Char.ofNat 8)
  | 'f' => some (Char.ofNat 12)
  | 'n' => some '\n'
  | 'r' => some '\r'
  | 't' => some '\t'
  | _ => none

/-- Takes the escapes of a quoted text apart; a bare control character is refused. -/
def pieces? : List Char → Option (List Piece)
  | [] => some []
  | '\\' :: 'u' :: a :: b :: c :: d :: rest => do
      let a ← hexDigit? a
      let b ← hexDigit? b
      let c ← hexDigit? c
      let d ← hexDigit? d
      let pieces ← pieces? rest
      some (.code (((a * 16 + b) * 16 + c) * 16 + d) :: pieces)
  | '\\' :: mark :: rest => do
      let character ← shortEscape? mark
      let pieces ← pieces? rest
      some (.character character :: pieces)
  | character :: rest =>
      if character = '\\' ∨ character.toNat < 32 then none
      else (pieces? rest).map (.character character :: ·)

def isHighHalf (code : Nat) : Bool :=
  0xD800 ≤ code && code < 0xDC00

def isLowHalf (code : Nat) : Bool :=
  0xDC00 ≤ code && code < 0xE000

/-- Joins the halves of surrogate pairs; a half alone is no character. -/
def join? : List Piece → Option (List Char)
  | [] => some []
  | .character value :: rest => (join? rest).map (value :: ·)
  | .code high :: .code low :: rest =>
      if isHighHalf high then
        if isLowHalf low then
          (join? rest).map (Char.ofNat (0x10000 + (high - 0xD800) * 0x400 + (low - 0xDC00)) :: ·)
        else none
      else if isLowHalf high then none
      else (join? (.code low :: rest)).map (Char.ofNat high :: ·)
  | .code value :: rest =>
      if isHighHalf value || isLowHalf value then none
      else (join? rest).map (Char.ofNat value :: ·)

def token? (characters : List Char) : Option Token :=
  (pieces? characters).map fun pieces => .text ((join? pieces).map String.ofList)

end Quoted

namespace Token

/-- What is being collected, its last character first. -/
inductive Scanner where
  | between
  | word (letters : List Char)
  | numeral (characters : List Char)
  | quoted (escaped : Bool) (characters : List Char)
deriving DecidableEq, Repr

def isBlank (character : Char) : Bool :=
  character = ' ' || character = '\n' || character = '\r' || character = '\t'

def punctuation? : Char → Option Token
  | '[' => some .openArray
  | ']' => some .closeArray
  | '{' => some .openObject
  | '}' => some .closeObject
  | ',' => some .comma
  | ':' => some .colon
  | _ => none

def word? (letters : List Char) : Option Token :=
  if letters = ['n', 'u', 'l', 'l'] then some .null
  else if letters = ['t', 'r', 'u', 'e'] then some (.bool true)
  else if letters = ['f', 'a', 'l', 's', 'e'] then some (.bool false)
  else none

def isNumeralPart (character : Char) : Bool :=
  character.isDigit || character = '-' || character = '+' || character = '.' ||
    character = 'e' || character = 'E'

/-- Starts on a character that belongs to nothing collected so far. -/
def start? (character : Char) : Option (Scanner × List Token) :=
  if isBlank character then some (.between, [])
  else
    match punctuation? character with
    | some token => some (.between, [token])
    | none =>
        if character = '"' then some (.quoted false [], [])
        else if character.isDigit || character = '-' then some (.numeral [character], [])
        else if character.isAlpha then some (.word [character], [])
        else none

/-- Ends what is being collected. -/
def finish? : Scanner → Option (List Token)
  | .between => some []
  | .word letters => (word? letters.reverse).map ([·])
  | .numeral characters => (Numeral.ofChars? characters.reverse).map fun value => [.number value]
  | .quoted _ _ => none

/-- Reads one character; the tokens are those that it completes. -/
def step? (scanner : Scanner) (character : Char) : Option (Scanner × List Token) :=
  match scanner with
  | .quoted true characters => some (.quoted false (character :: characters), [])
  | .quoted false characters =>
      if character = '"' then do
        let token ← Quoted.token? characters.reverse
        some (.between, [token])
      else some (.quoted (character = '\\') (character :: characters), [])
  | .word letters =>
      if character.isAlpha then some (.word (character :: letters), [])
      else do
        let ended ← finish? scanner
        let (next, started) ← start? character
        some (next, ended ++ started)
  | .numeral characters =>
      if isNumeralPart character then some (.numeral (character :: characters), [])
      else do
        let ended ← finish? scanner
        let (next, started) ← start? character
        some (next, ended ++ started)
  | .between => start? character

/-- The tokens that the rest of a text completes. -/
def scanFrom? (scanner : Scanner) : List Char → Option (List Token)
  | [] => finish? scanner
  | character :: rest => do
      let (next, tokens) ← step? scanner character
      let more ← scanFrom? next rest
      some (tokens ++ more)

def scan? (characters : List Char) : Option (List Token) :=
  scanFrom? .between characters

end Token
end Templating.Json
