import Templating.Yaml.Node
import Templating.Yaml.Scalar

/-!
The tokens of YAML text.

`Token.scan?` reads a text from left to right.  Most tokens are marks and scalars, and three
kinds stand for what the columns of a text say: that a collection in block form starts, that one
ends, and that what follows is a key.  A key is known only when the colon after it is found, so
that its token, and that of a mapping which starts with it, are put in front of tokens that have
been read already.  Such a key stands on one line and is not longer than `longestKey` bytes.

Only a subset of YAML is read: anchors, aliases, tags, literal and folded blocks and directives
are refused.
-/

namespace Templating.Yaml

inductive Token where
  | documentStart
  | documentEnd
  | sequenceStart
  | mappingStart
  | blockEnd
  | dash
  | openBracket
  | closeBracket
  | openBrace
  | closeBrace
  | comma
  | key
  | value
  | scalar (style : ScalarStyle) (text : String)
deriving DecidableEq, Repr

namespace Token

/-- The greatest distance of a colon from the start of its key. -/
def longestKey : Nat := 1024

/-- A place where a key may have started. -/
structure KeyStart where
  place : Place
  /-- How many tokens precede the key. -/
  index : Nat
  /-- Whether what stands there can be nothing but a key. -/
  required : Bool
deriving DecidableEq, Repr

/-- Whether a colon at `place` is near enough. -/
def KeyStart.reaches (start : KeyStart) (place : Place) : Bool :=
  start.place.line = place.line && place.offset ≤ start.place.offset + longestKey

structure Scanner where
  cursor : Cursor
  tokens : Array Token
  /-- The columns of the open collections in block form, innermost first. -/
  indents : List Nat
  /-- Where a key outside brackets may have started. -/
  blockKey : Option KeyStart
  /-- Where a key between each pair of open brackets may have started, innermost first. -/
  flowKeys : List (Option KeyStart)
  /-- Whether a key may start here. -/
  keyAllowed : Bool

namespace Scanner

def start (characters : List Char) : Scanner :=
  { cursor := ⟨.origin, characters⟩, tokens := #[], indents := [], blockKey := none,
    flowKeys := [], keyAllowed := true }

def inFlow (scanner : Scanner) : Bool :=
  !scanner.flowKeys.isEmpty

/-- The least column of what belongs to the innermost collection in block form. -/
def minimum (scanner : Scanner) : Nat :=
  (scanner.indents.head?.map (· + 1)).getD 0

/-- Adds the token of the next `count` characters. -/
def emit (scanner : Scanner) (token : Token) (count : Nat) : Scanner :=
  { scanner with tokens := scanner.tokens.push token, cursor := scanner.cursor.skip count }

/-! ## Keys and indentation -/

/-- Where a key of the innermost collection may have started. -/
def keyStart? (scanner : Scanner) : Option KeyStart :=
  scanner.flowKeys.headD scanner.blockKey

def setKeyStart (scanner : Scanner) (start : Option KeyStart) : Scanner :=
  match scanner.flowKeys with
  | [] => { scanner with blockKey := start }
  | _ :: outer => { scanner with flowKeys := start :: outer }

/-- Gives up a place where a key may have started. -/
def dropKey? (scanner : Scanner) : Option Scanner :=
  if scanner.keyStart?.any KeyStart.required then none else some (scanner.setKeyStart none)

/-- Remembers that a key may start at the cursor. -/
def offerKey? (scanner : Scanner) : Option Scanner :=
  if scanner.keyAllowed then do
    let required := !scanner.inFlow && scanner.indents.head? = some scanner.cursor.column
    let start : KeyStart := ⟨scanner.cursor.place, scanner.tokens.size, required⟩
    let scanner ← scanner.dropKey?
    some (scanner.setKeyStart (some start))
  else some scanner

/-- Opens a collection in block form at a column that is further in; `index` is the place of
its token. -/
def openBlock (scanner : Scanner) (column index : Nat) (token : Token) : Scanner :=
  if !scanner.inFlow && scanner.minimum ≤ column then
    { scanner with
      indents := column :: scanner.indents
      tokens := scanner.tokens.insertIdxIfInBounds index token }
  else scanner

/-- Closes collections in block form, innermost first, as long as their columns say so. -/
def closeBlocks (scanner : Scanner) (isOver : Nat → Bool) : Scanner :=
  if scanner.inFlow then scanner
  else
    let closed := scanner.indents.takeWhile isOver
    { scanner with
      indents := scanner.indents.drop closed.length
      tokens := scanner.tokens ++ List.replicate closed.length Token.blockEnd }

/-! ## From one token to the next -/

/-- Skips blanks, comments, breaks and byte order marks that start a line, and tells whether a
key may start behind them.  Outside brackets a tab is skipped only where no key may start. -/
def skipGap (inFlow keyAllowed inComment : Bool) (place : Place) : List Char → Cursor × Bool
  | [] => (⟨place, []⟩, keyAllowed)
  | character :: rest =>
      let isSkipped := inComment || character = ' ' ||
        (character = '\t' && (inFlow || !keyAllowed)) ||
        (character = Char.ofNat 0xfeff && place.column = 0)
      if isBreak character then
        skipGap inFlow (keyAllowed || !inFlow) false (place.pass character) rest
      else if isSkipped then skipGap inFlow keyAllowed inComment (place.pass character) rest
      else if character = '#' then skipGap inFlow keyAllowed true (place.pass character) rest
      else (⟨place, character :: rest⟩, keyAllowed)

/-- Moves on to the next token and closes the collections that end before it. -/
def advance? (scanner : Scanner) : Option Scanner :=
  let (cursor, keyAllowed) :=
    skipGap scanner.inFlow scanner.keyAllowed false scanner.cursor.place scanner.cursor.rest
  let isMissed (start : KeyStart) : Bool := start.required && !start.reaches cursor.place
  if scanner.blockKey.any isMissed then none
  else
    let scanner := { scanner with cursor, keyAllowed }
    some (scanner.closeBlocks fun indent => cursor.column < indent)

/-! ## Marks -/

/-- The marks of a boundary between documents. -/
def boundary? (scanner : Scanner) (token : Token) : Option Scanner := do
  let scanner ← (scanner.closeBlocks fun _ => true).dropKey?
  some ({ scanner with keyAllowed := false }.emit token 3)

def openFlow? (scanner : Scanner) (token : Token) : Option Scanner := do
  let scanner ← scanner.offerKey?
  let flowKeys := none :: scanner.flowKeys
  some ({ scanner with flowKeys, keyAllowed := true }.emit token 1)

def closeFlow? (scanner : Scanner) (token : Token) : Option Scanner := do
  let scanner ← scanner.dropKey?
  let flowKeys := scanner.flowKeys.drop 1
  some ({ scanner with flowKeys, keyAllowed := false }.emit token 1)

def comma? (scanner : Scanner) : Option Scanner := do
  let scanner ← scanner.dropKey?
  some ({ scanner with keyAllowed := true }.emit .comma 1)

def dash? (scanner : Scanner) : Option Scanner :=
  if scanner.inFlow || scanner.keyAllowed then do
    let opened := scanner.openBlock scanner.cursor.column scanner.tokens.size .sequenceStart
    let scanner ← opened.dropKey?
    some ({ scanner with keyAllowed := true }.emit .dash 1)
  else none

/-- A question mark, which a key follows. -/
def explicitKey? (scanner : Scanner) : Option Scanner :=
  if scanner.inFlow || scanner.keyAllowed then do
    let opened := scanner.openBlock scanner.cursor.column scanner.tokens.size .mappingStart
    let scanner ← opened.dropKey?
    some ({ scanner with keyAllowed := !scanner.inFlow }.emit .key 1)
  else none

/-- A colon, which ends the key that started on the same line, if there is one. -/
def value? (scanner : Scanner) : Option Scanner :=
  match scanner.keyStart?.filter (·.reaches scanner.cursor.place) with
  | some start =>
      let scanner := scanner.setKeyStart none
      let tokens := scanner.tokens.insertIdxIfInBounds start.index .key
      let opened :=
        { scanner with tokens }.openBlock start.place.column start.index .mappingStart
      some ({ opened with keyAllowed := false }.emit .value 1)
  | none =>
      if scanner.inFlow || scanner.keyAllowed then
        let opened := scanner.openBlock scanner.cursor.column scanner.tokens.size .mappingStart
        some ({ opened with keyAllowed := !opened.inFlow }.emit .value 1)
      else none

/-! ## Scalars -/

/-- Adds the token of a scalar up to `cursor`, whose characters are given last first. -/
def emitScalar (scanner : Scanner) (style : ScalarStyle) (text : List Char) (cursor : Cursor) :
    Scanner :=
  let token := Token.scalar style (String.ofList text.reverse)
  { scanner with tokens := scanner.tokens.push token, cursor }

def quotedScalar? (scanner : Scanner) (quote : Char) : Option Scanner := do
  let scanner ← scanner.offerKey?
  let inside := scanner.cursor.skip 1
  let (text, cursor) ← quoted? quote .outside [] .none inside.place inside.rest
  some ({ scanner with keyAllowed := false }.emitScalar .quoted text cursor)

/-- A plain scalar takes the gap behind it along, and a key may start where that ends a line. -/
def plainScalar? (scanner : Scanner) : Option Scanner := do
  let scanner ← scanner.offerKey?
  let (text, gap, cursor) ←
    plain? scanner.inFlow scanner.minimum [] .none scanner.cursor.place scanner.cursor.rest
  some ({ scanner with keyAllowed := gap.isCrossed }.emitScalar .plain text cursor)

/-! ## Texts -/

/-- Reads the token in front of the cursor. -/
def next? (scanner : Scanner) : Option Scanner :=
  if scanner.cursor.isAtMarks '-' then scanner.boundary? .documentStart
  else if scanner.cursor.isAtMarks '.' then scanner.boundary? .documentEnd
  else
    match scanner.cursor.rest with
    | '[' :: _ => scanner.openFlow? .openBracket
    | ']' :: _ => scanner.closeFlow? .closeBracket
    | '\x7b' :: _ => scanner.openFlow? .openBrace
    | '\x7d' :: _ => scanner.closeFlow? .closeBrace
    | ',' :: _ => scanner.comma?
    | '\'' :: _ => scanner.quotedScalar? '\''
    | '"' :: _ => scanner.quotedScalar? '"'
    | character :: rest =>
        if character = '-' && endsWord rest then scanner.dash?
        else if character = '?' && (scanner.inFlow || endsWord rest) then scanner.explicitKey?
        else if character = ':' && (scanner.inFlow || endsWord rest) then scanner.value?
        else if startsPlain scanner.inFlow (character :: rest) then scanner.plainScalar?
        else none
    | [] => none

def finish? (scanner : Scanner) : Option (List Token) := do
  let scanner ← (scanner.closeBlocks fun _ => true).dropKey?
  some scanner.tokens.toList

/-- Reads at most `bound` tokens up to the end of the text. -/
def run? : Nat → Scanner → Option (List Token)
  | 0, _ => none
  | bound + 1, scanner => do
      let scanner ← scanner.advance?
      if scanner.cursor.rest.isEmpty then scanner.finish?
      else do
        let scanner ← scanner.next?
        run? bound scanner

end Scanner

/-- The characters that a document may hold. -/
def isPermitted (character : Char) : Bool :=
  let code := character.toNat
  code = 0x09 || code = 0x0a || code = 0x0d || (0x20 ≤ code && code ≤ 0x7e) || code = 0x85 ||
    (0xa0 ≤ code && code ≤ 0xfffd) || 0x10000 ≤ code

def scan? (source : List Char) : Option (List Token) :=
  if source.all isPermitted then
    let characters := normalBreaks source
    (Scanner.start characters).run? (characters.length + 1)
  else none

end Token
end Templating.Yaml
