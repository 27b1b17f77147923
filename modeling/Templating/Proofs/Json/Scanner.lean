import Templating.Json.Basic
import Templating.Proofs.Json.Numeral

/-!
Written pieces of JSON text are the tokens that they stand for.

Punctuation and quoted texts end by themselves.  A word or a number goes on for as long as there are letters
or parts of numbers, so that it is a token of its own only in front of a character that is neither.
-/

namespace Templating.Json

/-! ## Quoted texts -/

open Quoted in
/-- The ways in which a character stands in a quoted text. -/
inductive Escaped (character : Char) : List Char → Prop where
  | short (notCode : mark ≠ 'u') (names : shortEscape? mark = some character) :
      Escaped character ['\\', mark]
  | code (small : character.toNat < 32) (high : hexDigit? first = some (character.toNat / 16))
      (low : hexDigit? second = some (character.toNat % 16)) :
      Escaped character ['\\', 'u', '0', '0', first, second]
  | plain (notQuote : character ≠ '"') (notMark : character ≠ '\\')
      (printable : ¬ character.toNat < 32) : Escaped character [character]

theorem hexDigit?_hexDigit (value : Nat) : hexDigit? (hexDigit value) = some (value % 16) := by
  have digits : ∀ digit < 16, hexDigit? (Nat.digitChar digit) = some digit := by decide
  exact digits (value % 16) (Nat.mod_lt _ (by decide))

theorem escape_escaped (character : Char) : Escaped character (escape character) := by
  have named {code : Nat} (same : character.toNat = code) : character = Char.ofNat code := by
    rw [← same, Char.ofNat_toNat]
  unfold escape
  split
  · exact .short (by decide) rfl
  · exact .short (by decide) rfl
  · exact .short (by decide) rfl
  · exact .short (by decide) rfl
  · exact .short (by decide) rfl
  · next notQuote notMark _ _ _ =>
      split
      · next backspace => exact named backspace ▸ .short (by decide) rfl
      · split
        · next feed => exact named feed ▸ .short (by decide) rfl
        · split
          · next small =>
              have high := hexDigit?_hexDigit (character.toNat / 16)
              rw [Nat.mod_eq_of_lt (by omega)] at high
              exact .code small high (hexDigit?_hexDigit _)
          · next printable => exact .plain notQuote notMark printable

namespace Quoted

theorem join?_code {code : Nat} (small : code < 32) (pieces : List Piece) :
    join? (.code code :: pieces) = (join? pieces).map (Char.ofNat code :: ·) := by
  have notHigh : isHighHalf code = false := by simp [isHighHalf]; omega
  have notLow : isLowHalf code = false := by simp [isLowHalf]; omega
  cases pieces with
  | nil => simp [join?, notHigh, notLow]
  | cons piece rest => cases piece <;> simp [join?, notHigh, notLow]

theorem exists_piece {character : Char} {written : List Char} (escaped : Escaped character written) :
    ∃ piece, (∀ rest, pieces? (written ++ rest) = (pieces? rest).map (piece :: ·)) ∧
      ∀ pieces, join? (piece :: pieces) = (join? pieces).map (character :: ·) := by
  cases escaped with
  | @short mark notCode names =>
      refine ⟨.character character, fun rest => ?_, fun _ => rfl⟩
      change pieces? ('\\' :: mark :: rest) = _
      rw [pieces?]
      · cases taken : pieces? rest <;> simp [names]
      · intro a b c d rest same
        exact (notCode same).elim
  | @code first second small high low =>
      refine ⟨.code character.toNat, fun rest => ?_, fun pieces => ?_⟩
      · have zero : hexDigit? '0' = some 0 := by decide
        have value : character.toNat / 16 * 16 + character.toNat % 16 = character.toNat := by omega
        change pieces? ('\\' :: 'u' :: '0' :: '0' :: first :: second :: rest) = _
        rw [pieces?]
        cases taken : pieces? rest <;> simp [zero, high, low, value]
      · rw [join?_code small, Char.ofNat_toNat]
  | plain notQuote notMark printable =>
      refine ⟨.character character, fun rest => ?_, fun _ => rfl⟩
      change pieces? (character :: rest) = _
      rw [pieces?]
      · simp [notMark, printable]
      · intro _ _ _ _ _ same
        exact (notMark same).elim
      · intro _ _ same
        exact (notMark same).elim

/-- A text is read from between its quotes as it was. -/
theorem token?_escape (characters : List Char) :
    token? (characters.flatMap escape) = some (.text (some (String.ofList characters))) := by
  have pieces : ∃ pieces, pieces? (characters.flatMap escape) = some pieces ∧
      join? pieces = some characters := by
    induction characters with
    | nil => exact ⟨[], by simp [pieces?], rfl⟩
    | cons character rest ih =>
        obtain ⟨pieces, taken, joined⟩ := ih
        obtain ⟨piece, takes, joins⟩ := exists_piece (escape_escaped character)
        exact ⟨piece :: pieces, by rw [List.flatMap_cons, takes, taken]; rfl, by rw [joins, joined]; rfl⟩
  obtain ⟨pieces, taken, joined⟩ := pieces
  rw [token?, taken, Option.map_some, joined]
  rfl

end Quoted

/-! ## Where a token ends -/

namespace Token

/-- What may follow on a word or a number. -/
def Delimits (rest : List Char) : Prop :=
  ∀ character ∈ rest.head?, isNumeralPart character = false ∧ character.isAlpha = false

/-- The characters are the tokens, whatever follows on them. -/
def Scans (characters : List Char) (tokens : List Token) : Prop :=
  ∀ rest, Delimits rest →
    scanFrom? .between (characters ++ rest) = (scanFrom? .between rest).map (tokens ++ ·)

variable {left right rest others : List Char} {character : Char} {token : Token}
  {tokens more : List Token}

theorem delimits_nil : Delimits [] := by
  simp [Delimits]

theorem delimits_of_punctuation (isToken : punctuation? character = some token) :
    Delimits (character :: rest) := by
  simp only [Delimits, List.head?_cons, Option.mem_some_iff, forall_eq']
  unfold punctuation? at isToken
  split at isToken
  all_goals first | exact ⟨rfl, rfl⟩ | contradiction

theorem Delimits.append (delimits : Delimits right) (delimits' : Delimits rest) :
    Delimits (right ++ rest) := by
  cases right with
  | nil => exact delimits'
  | cons first others => exact delimits

theorem scans_nil : Scans [] [] := by
  intro rest _
  simp

theorem Scans.append (first : Scans left tokens) (second : Scans right more)
    (delimits : Delimits right) : Scans (left ++ right) (tokens ++ more) := by
  intro rest delimits'
  rw [List.append_assoc, first _ (delimits.append delimits'), second rest delimits', Option.map_map]
  simp only [Function.comp_def, List.append_assoc]

theorem Scans.punctuation (isToken : punctuation? character = some token)
    (follows : Scans right tokens) : Scans (character :: right) (token :: tokens) := by
  intro rest delimits
  have starts : start? character = some (.between, [token]) := by
    unfold punctuation? at isToken
    split at isToken
    all_goals first | contradiction | (cases isToken; rfl)
  simp only [List.cons_append, scanFrom?, step?, starts, Option.bind_eq_bind, Option.bind_some,
    follows rest delimits]
  cases scanFrom? .between rest <;> rfl

/-- Ends what is being collected and starts over. -/
theorem scanFrom?_of_ends {scanner : Scanner}
    (ends : ∀ character ∈ rest.head?, step? scanner character = do
      let ended ← finish? scanner
      let (next, started) ← start? character
      some (next, ended ++ started)) :
    scanFrom? scanner rest =
      (finish? scanner).bind fun ended => (scanFrom? .between rest).map (ended ++ ·) := by
  cases rest with
  | nil =>
      have blank : finish? .between = some [] := rfl
      cases finished : finish? scanner <;> simp [scanFrom?, finished, blank]
  | cons character rest =>
      simp only [scanFrom?, ends character rfl]
      cases finish? scanner with
      | none => rfl
      | some ended =>
          cases begins : start? character with
          | none => simp [step?, begins]
          | some started =>
              obtain ⟨next, started⟩ := started
              cases scanned : scanFrom? next rest <;> simp [step?, begins, scanned]

/-- Characters that go on with what is being collected are collected. -/
theorem scanFrom?_collects {collects : List Char → Scanner} {characters : List Char}
    (goesOn : ∀ character ∈ characters, ∀ collected,
      step? (collects collected) character = some (collects (character :: collected), []))
    (collected rest : List Char) :
    scanFrom? (collects collected) (characters ++ rest) =
      scanFrom? (collects (characters.reverse ++ collected)) rest := by
  induction characters generalizing collected with
  | nil => rfl
  | cons character characters ih =>
      rw [List.forall_mem_cons] at goesOn
      simp [scanFrom?, goesOn.1, ih goesOn.2]

theorem scans_collected {collects : List Char → Scanner} {first : Char}
    (starts : start? first = some (collects [first], []))
    (goesOn : ∀ character ∈ others, ∀ collected,
      step? (collects collected) character = some (collects (character :: collected), []))
    (ends : ∀ character, isNumeralPart character = false ∧ character.isAlpha = false → ∀ collected,
      step? (collects collected) character = do
        let ended ← finish? (collects collected)
        let (next, started) ← start? character
        some (next, ended ++ started))
    (finishes : finish? (collects (others.reverse ++ [first])) = some [token]) :
    Scans (first :: others) [token] := by
  intro rest delimits
  have collected := scanFrom?_collects goesOn [first] rest
  have ended := scanFrom?_of_ends fun character next =>
    ends character (delimits character next) (others.reverse ++ [first])
  simp [scanFrom?, step?, starts, collected, ended, finishes]

theorem scans_word {first : Char} (starts : start? first = some (.word [first], []))
    (isAlpha : ∀ character ∈ others, character.isAlpha = true)
    (names : word? (first :: others) = some token) : Scans (first :: others) [token] := by
  apply scans_collected starts
  · intro character member collected
    simp [step?, isAlpha character member]
  · intro character delimits collected
    simp [step?, delimits.2]
  · simp [finish?, names]

theorem start?_of_isDigit (isDigit : character.isDigit = true) :
    start? character = some (.numeral [character], []) := by
  have other (mark : Char) (notDigit : mark.isDigit = false) : character ≠ mark := by
    rintro rfl
    rw [notDigit] at isDigit
    contradiction
  have noPunctuation : punctuation? character = none := by
    unfold punctuation?
    split
    all_goals first | rfl | exact absurd isDigit (by decide)
  have noBlank : isBlank character = false := by
    simp [isBlank, other ' ' rfl, other '\n' rfl, other '\r' rfl, other '\t' rfl]
  simp [start?, noBlank, noPunctuation, isDigit, other '"' rfl]

theorem scans_numeral {characters : List Char} {numeral : Numeral}
    (reads : Numeral.ofChars? characters = some numeral) : Scans characters [.number numeral] := by
  obtain ⟨first, others, rfl, isStart⟩ := Numeral.starts_of_ofChars? reads
  have parts := Numeral.isNumeralPart_of_ofChars? reads
  have starts : start? first = some (.numeral [first], []) := by
    rcases Bool.or_eq_true_iff.mp isStart with isDigit | sign
    · exact start?_of_isDigit isDigit
    · rw [of_decide_eq_true sign]
      rfl
  apply scans_collected starts
  · intro character member collected
    simp [step?, parts character (List.mem_cons_of_mem _ member)]
  · intro character delimits collected
    simp [step?, delimits.1]
  · simp [finish?, reads]

/-- An escaped character does not end the text that it stands in. -/
theorem scanFrom?_escape (character : Char) (collected rest : List Char) :
    scanFrom? (.quoted false collected) (escape character ++ rest) =
      scanFrom? (.quoted false ((escape character).reverse ++ collected)) rest := by
  have escaped := escape_escaped character
  generalize escape character = written at escaped
  cases escaped with
  | short notCode names => simp [scanFrom?, step?]
  | @code first second small high low =>
      have plain {digit : Char} {value : Nat} (isHex : hexDigit? digit = some value) :
          digit ≠ '"' ∧ digit ≠ '\\' := by
        constructor <;> rintro rfl <;> cases isHex
      simp [scanFrom?, step?, plain high, plain low]
  | plain notQuote notMark printable => simp [scanFrom?, step?, notQuote, notMark]

theorem scanFrom?_flatMap_escape (characters collected rest : List Char) :
    scanFrom? (.quoted false collected) (characters.flatMap escape ++ rest) =
      scanFrom? (.quoted false ((characters.flatMap escape).reverse ++ collected)) rest := by
  induction characters generalizing collected with
  | nil => rfl
  | cons character characters ih =>
      rw [List.flatMap_cons, List.append_assoc, scanFrom?_escape, ih, List.reverse_append,
        List.append_assoc]

theorem scans_quote (value : String) : Scans (quote value) [.text (some value)] := by
  intro rest _
  have starts : start? '"' = some (.quoted false [], []) := by decide
  have written : quote value ++ rest = '"' :: (value.toList.flatMap escape ++ '"' :: rest) := by
    simp [quote]
  have reads := Quoted.token?_escape value.toList
  rw [String.ofList_toList] at reads
  rw [written]
  cases scanned : scanFrom? .between rest <;>
    simp [scanFrom?, step?, starts, scanFrom?_flatMap_escape, reads, scanned]

end Token
end Templating.Json
