import Templating.Number.Digit
import Templating.Yaml.Cursor

/-!
Scalars of YAML documents.

A plain scalar ends before a comment, before a colon that ends a key, before a line that is
indented too little and, between brackets, before a bracket or a comma.  Plain and quoted
scalars may run over several lines: a line feed stands for a blank, and of several breaks the
first is dropped if it is one.  No scalar runs over the boundary of a document.

Both readers collect the characters of a scalar last first.
-/

namespace Templating.Yaml

/-- The blanks and breaks between two words of a scalar, last first. -/
inductive Gap where
  | blanks (run : List Char)
  /-- A break and the breaks after it; blanks around breaks are dropped. -/
  | breaks (first : Char) (more : List Char)
  /-- An escaped break, which joins two lines, and the breaks after it. -/
  | joint (more : List Char)
deriving DecidableEq, Repr

namespace Gap

def none : Gap := .blanks []

/-- Whether a line ends in the gap. -/
def isCrossed : Gap → Bool
  | .blanks _ => false
  | .breaks _ _ | .joint _ => true

def add (gap : Gap) (character : Char) : Gap :=
  if isBreak character then
    match gap with
    | .blanks _ => .breaks character []
    | .breaks first more => .breaks first (character :: more)
    | .joint more => .joint (character :: more)
  else
    match gap with
    | .blanks run => .blanks (character :: run)
    | crossed => crossed

/-- Puts what a gap stands for behind a text. -/
def close (gap : Gap) (text : List Char) : List Char :=
  match gap with
  | .blanks run => run ++ text
  | .joint more => more ++ text
  | .breaks first more =>
      if first ≠ '\n' then more ++ first :: text
      else if more.isEmpty then ' ' :: text
      else more ++ text

end Gap

/-! ## Plain scalars -/

/-- Whether a plain scalar can start here. -/
def startsPlain (inFlow : Bool) : List Char → Bool
  | [] => false
  | character :: rest =>
      if character = '-' then !endsWord rest
      else if character = '?' || character = ':' then !inFlow && !endsWord rest
      else
        !isBlank character && !isBreak character && !isFlowIndicator character &&
          !("#&*!|>'\"%@".toList.contains character) && character ≠ Char.ofNat 0x60

/-- Whether a plain scalar ends in front of `character`. -/
def endsPlain (inFlow : Bool) (minimum : Nat) (gap : Gap) (place : Place) (character : Char)
    (rest : List Char) : Bool :=
  (character = '#' && gap ≠ .none) || (character = ':' && endsWord rest) ||
    (inFlow && isFlowIndicator character) ||
    (gap.isCrossed && !inFlow && place.column < minimum) ||
    Cursor.isAtBoundary ⟨place, character :: rest⟩

/-- Between brackets, a colon in front of a bracket, a comma or a question mark is refused. -/
def isRefused (inFlow : Bool) (character : Char) (rest : List Char) : Bool :=
  inFlow && character = ':' &&
    rest.head?.any fun next => isFlowIndicator next || next = '?'

/-- Reads on in a plain scalar: its text, the gap behind it, and the cursor behind the gap.  A
later line outside brackets is indented by `minimum`, and a tab is no part of its indentation. -/
def plain? (inFlow : Bool) (minimum : Nat) (text : List Char) (gap : Gap) (place : Place) :
    List Char → Option (List Char × Gap × Cursor)
  | [] => some (text, gap, ⟨place, []⟩)
  | character :: rest =>
      if isBlank character || isBreak character then
        if character = '\t' && gap.isCrossed && place.column < minimum then none
        else plain? inFlow minimum text (gap.add character) (place.pass character) rest
      else if endsPlain inFlow minimum gap place character rest then
        some (text, gap, ⟨place, character :: rest⟩)
      else if isRefused inFlow character rest then none
      else
        plain? inFlow minimum (character :: gap.close text) .none (place.pass character) rest

/-! ## Quoted scalars -/

/-- What a character inside quotes belongs to. -/
inductive Escape where
  | outside
  | doubled
  | letter
  /-- A hexadecimal digit; `due` more follow, and those before have the value `code`. -/
  | digit (due code : Nat)
deriving DecidableEq, Repr

def shortEscape? (letter : Char) : Option Char :=
  match letter with
  | '0' => some (Char.ofNat 0x00)
  | 'a' => some (Char.ofNat 0x07)
  | 'b' => some (Char.ofNat 0x08)
  | 't' | '\t' => some '\t'
  | 'n' => some '\n'
  | 'v' => some (Char.ofNat 0x0b)
  | 'f' => some (Char.ofNat 0x0c)
  | 'r' => some '\r'
  | 'e' => some (Char.ofNat 0x1b)
  | ' ' | '"' | '/' | '\\' => some letter
  | 'N' => some (Char.ofNat 0x85)
  | '_' => some (Char.ofNat 0xa0)
  | 'L' => some (Char.ofNat 0x2028)
  | 'P' => some (Char.ofNat 0x2029)
  | _ => none

def escapeDigits (letter : Char) : Nat :=
  match letter with
  | 'x' => 2
  | 'u' => 4
  | 'U' => 8
  | _ => 0

/-- Reads on in a quoted scalar up to the quote that closes it: its text and the cursor behind
the quote. -/
def quoted? (quote : Char) (escape : Escape) (text : List Char) (gap : Gap) (place : Place) :
    List Char → Option (List Char × Cursor)
  | [] => none
  | character :: rest =>
      let next := place.pass character
      match escape with
      | .doubled => quoted? quote .outside (character :: text) .none next rest
      | .letter =>
          if isBreak character then quoted? quote .outside text (.joint []) next rest
          else
            match escapeDigits character with
            | due + 1 => quoted? quote (.digit due 0) text .none next rest
            | 0 =>
                match shortEscape? character with
                | some value => quoted? quote .outside (value :: text) .none next rest
                | none => none
      | .digit due code =>
          match hexDigit? character with
          | none => none
          | some value =>
              let code := 16 * code + value
              match due with
              | due + 1 => quoted? quote (.digit due code) text .none next rest
              | 0 =>
                  if code.isValidChar then
                    quoted? quote .outside (Char.ofNat code :: text) .none next rest
                  else none
      | .outside =>
          if Cursor.isAtBoundary ⟨place, character :: rest⟩ then none
          else if isBlank character || isBreak character then
            quoted? quote .outside text (gap.add character) next rest
          else if character = quote then
            if quote = '\'' && rest.head? = some '\'' then
              quoted? quote .doubled (gap.close text) .none next rest
            else some (gap.close text, ⟨next, rest⟩)
          else if character = '\\' && quote = '"' then
            quoted? quote .letter (gap.close text) .none next rest
          else quoted? quote .outside (character :: gap.close text) .none next rest

end Templating.Yaml
