import Templating.Json.Token

/-!
Numbers as they are written and as they are read.

A number is a row of digits with an optional sign in front of it and an optional fraction and power of ten
behind it.  Whatever is written in this way is read, a whole number as what it was, and whatever is read
consists of the characters that a number may have.
-/

namespace Templating.Json.Numeral

/-! ## Rows of digits -/

/-- Digits as they may stand in front of the point. -/
structure IsRow (characters : List Char) : Prop where
  digits : ∀ character ∈ characters, character.isDigit = true
  nonempty : characters ≠ []
  lead : characters.head? = some '0' → characters.length = 1

theorem valueOf_toDigits (value : Nat) : valueOf ((Nat.toDigits 10 value).map digit) = value := by
  unfold valueOf
  rw [List.foldl_map]
  exact Nat.ofDigitChars_toDigits (by decide) (by decide)

theorem eq_zero_of_head?_toDigits {value : Nat} (lead : (Nat.toDigits 10 value).head? = some '0') :
    value = 0 := by
  induction value using Nat.strongRecOn with
  | ind value ih =>
      by_cases small : value < 10
      · rw [Nat.toDigits_of_lt_base small] at lead
        have zero : ∀ value < 10, value.digitChar = '0' → value = 0 := by decide
        exact zero value small (Option.some.inj lead)
      · rw [Nat.toDigits_of_base_le (by decide) (by omega),
          List.head?_append, Option.or_of_isSome (List.isSome_head?.mpr Nat.toDigits_ne_nil)] at lead
        have := ih (value / 10) (by omega) lead
        omega

theorem isRow_toDigits (value : Nat) : IsRow (Nat.toDigits 10 value) where
  digits _ member := Nat.isDigit_of_mem_toDigits (by decide) (by decide) member
  nonempty := Nat.toDigits_ne_nil
  lead first := by
    rw [eq_zero_of_head?_toDigits first]
    rfl

/-- Where a row of digits stops. -/
def Stops (characters : List Char) : Prop :=
  ∀ character ∈ characters.head?, character.isDigit = false

theorem takeWhile_digits {digits rest : List Char}
    (isDigit : ∀ character ∈ digits, character.isDigit = true) (stops : Stops rest) :
    (digits ++ rest).takeWhile Char.isDigit = digits ∧
      (digits ++ rest).dropWhile Char.isDigit = rest := by
  rw [List.takeWhile_append_of_pos isDigit, List.dropWhile_append_of_pos isDigit]
  cases rest with
  | nil => simp
  | cons first rest => simp [stops first rfl]

/-! ## Reading a number -/

/-- What may follow on the digits in front of the point. -/
structure IsTail (characters fraction : List Char) (exponent : Int) : Prop where
  stops : Stops characters
  reads : ∃ rest, fraction? characters = some (fraction, rest) ∧ exponent? rest = some exponent

theorem ofChars?_append {whole tail fraction : List Char} {exponent : Int} (negative : Bool)
    (row : IsRow whole) (ends : IsTail tail fraction exponent) :
    ofChars? ((if negative then ['-'] else []) ++ (whole ++ tail)) =
      some ⟨negative, whole.map digit, fraction.map digit, exponent, tail.isEmpty⟩ := by
  obtain ⟨rest, isFraction, isExponent⟩ := ends.reads
  obtain ⟨taken, dropped⟩ := takeWhile_digits row.digits ends.stops
  have wellFormed : ¬ (whole = [] ∨ (whole.head? = some '0' ∧ whole.length ≠ 1)) := by
    rintro (empty | ⟨lead, long⟩)
    · exact row.nonempty empty
    · exact long (row.lead lead)
  have unsigned : (whole ++ tail).head? ≠ some '-' := by
    obtain ⟨first, others, rfl⟩ := List.exists_cons_of_ne_nil row.nonempty
    have isDigit := row.digits first (by simp)
    rintro same
    cases same
    contradiction
  generalize whole ++ tail = characters at *
  cases negative <;>
    simp [ofChars?, taken, dropped, wellFormed, isFraction, isExponent, unsigned]

/-! ## Ways of writing a number -/

theorem isTail_of_exponent {rest : List Char} {exponent : Int} (stops : Stops rest)
    (noPoint : rest.head? ≠ some '.') (reads : exponent? rest = some exponent) :
    IsTail rest [] exponent := by
  refine ⟨stops, rest, ?_, reads⟩
  unfold fraction?
  split
  · exact (noPoint rfl).elim
  · rfl

theorem isTail_of_point {digits rest : List Char} {exponent : Int}
    (isDigit : ∀ character ∈ digits, character.isDigit = true) (nonempty : digits ≠ [])
    (stops : Stops rest) (reads : exponent? rest = some exponent) :
    IsTail ('.' :: (digits ++ rest)) digits exponent := by
  obtain ⟨taken, dropped⟩ := takeWhile_digits isDigit stops
  refine ⟨by simp [Stops], rest, ?_, reads⟩
  simp only [fraction?, taken, dropped, nonempty, if_false]

theorem isTail_nil : IsTail [] [] 0 :=
  isTail_of_exponent (by simp [Stops]) (by simp) rfl

theorem isTail_of_digits {digits : List Char}
    (isDigit : ∀ character ∈ digits, character.isDigit = true) (nonempty : digits ≠ []) :
    IsTail ('.' :: digits) digits 0 := by
  have point := isTail_of_point isDigit nonempty isTail_nil.stops rfl
  rwa [List.append_nil] at point

/-- Numbers without a sign. -/
inductive IsUnsigned : List Char → Prop where
  | append {whole tail fraction : List Char} {exponent : Int} (row : IsRow whole)
      (ends : IsTail tail fraction exponent) : IsUnsigned (whole ++ tail)

theorem IsUnsigned.exists_ofChars? {characters : List Char} (isUnsigned : IsUnsigned characters)
    (negative : Bool) :
    ∃ numeral, ofChars? ((if negative then ['-'] else []) ++ characters) = some numeral := by
  cases isUnsigned with
  | append row ends => exact ⟨_, ofChars?_append negative row ends⟩

theorem exponent?_toDigits (value : Nat) :
    exponent? ('e' :: '+' :: Nat.toDigits 10 value) = some (value : Int) ∧
      exponent? ('e' :: '-' :: Nat.toDigits 10 value) = some (-value : Int) := by
  have digits : (Nat.toDigits 10 value).all Char.isDigit = true :=
    List.all_eq_true.mpr (isRow_toDigits value).digits
  constructor <;> simp [exponent?, digits, valueOf_toDigits, Nat.toDigits_ne_nil]

/-- The numeral that a whole number is written as. -/
def ofInt (value : Int) : Numeral :=
  ⟨value < 0, (Nat.toDigits 10 value.natAbs).map digit, [], 0, true⟩

theorem ofChars?_toString (value : Int) : ofChars? (toString value).toList = some (ofInt value) := by
  have written : (toString value).toList =
      (if value < 0 then ['-'] else []) ++ (Nat.toDigits 10 value.natAbs ++ []) := by
    change value.repr.toList = _
    rw [Int.repr_eq_if]
    split
    · next positive => simp [Int.not_lt.mpr positive, show value.toNat = value.natAbs by omega]
    · next negative =>
        simp [Int.not_le.mp negative, show (-value).toNat = value.natAbs by omega]
  have reads := ofChars?_append (decide (value < 0)) (isRow_toDigits value.natAbs) isTail_nil
  rw [written, ofInt]
  simpa using reads

/-! ## The characters of a number -/

theorem isNumeralPart_of_isDigit {character : Char} (isDigit : character.isDigit = true) :
    Token.isNumeralPart character = true := by
  simp [Token.isNumeralPart, isDigit]

theorem isNumeralPart_of_exponent? {characters : List Char} {exponent : Int}
    (reads : exponent? characters = some exponent) :
    ∀ character ∈ characters, Token.isNumeralPart character = true := by
  unfold exponent? at reads
  split at reads
  · simp
  · next mark rest =>
      obtain ⟨isMark, reads⟩ := Option.ite_none_right_eq_some.mp reads
      obtain ⟨⟨_, digits⟩, _⟩ := Option.ite_none_right_eq_some.mp reads
      rw [List.all_eq_true] at digits
      intro character member
      rcases List.mem_cons.mp member with rfl | member
      · rcases isMark with rfl | rfl <;> rfl
      · split at digits
        · next sign =>
            obtain ⟨first, others, rfl⟩ := List.exists_cons_of_ne_nil (List.ne_nil_of_mem member)
            rcases List.mem_cons.mp member with rfl | member
            · rcases sign with sign | sign <;> cases Option.some.inj sign <;> rfl
            · exact isNumeralPart_of_isDigit (digits character member)
        · exact isNumeralPart_of_isDigit (digits character member)

theorem isNumeralPart_of_row {characters : List Char}
    (parts : ∀ character ∈ characters.dropWhile Char.isDigit, Token.isNumeralPart character = true) :
    ∀ character ∈ characters, Token.isNumeralPart character = true := by
  intro character member
  rw [← List.takeWhile_append_dropWhile (p := Char.isDigit) (l := characters)] at member
  rcases List.mem_append.mp member with digit | later
  · exact isNumeralPart_of_isDigit (List.all_eq_true.mp List.all_takeWhile character digit)
  · exact parts character later

theorem isNumeralPart_of_fraction? {characters fraction rest : List Char}
    (reads : fraction? characters = some (fraction, rest))
    (parts : ∀ character ∈ rest, Token.isNumeralPart character = true) :
    ∀ character ∈ characters, Token.isNumeralPart character = true := by
  unfold fraction? at reads
  split at reads
  · obtain ⟨_, same⟩ := Option.ite_none_left_eq_some.mp reads
    cases same
    intro character member
    rcases List.mem_cons.mp member with rfl | member
    · rfl
    · exact isNumeralPart_of_row parts character member
  · cases reads
    exact parts

/-- A number is a row of digits with an optional sign, a fraction and an exponent. -/
theorem exists_unsigned {characters : List Char} {numeral : Numeral}
    (reads : ofChars? characters = some numeral) :
    ∃ unsigned, (characters = unsigned ∨ characters = '-' :: unsigned) ∧
      unsigned.takeWhile Char.isDigit ≠ [] ∧ ∃ fraction rest exponent,
        fraction? (unsigned.dropWhile Char.isDigit) = some (fraction, rest) ∧
          exponent? rest = some exponent := by
  unfold ofChars? at reads
  obtain ⟨wellFormed, reads⟩ := Option.ite_none_left_eq_some.mp reads
  simp only [Option.bind_eq_bind, Option.bind_eq_some_iff] at reads
  obtain ⟨⟨fraction, rest⟩, isFraction, exponent, isExponent, _⟩ := reads
  refine ⟨_, ?_, fun empty => wellFormed (.inl empty), fraction, rest, exponent, isFraction, isExponent⟩
  split
  · next signed =>
      cases characters with
      | nil => simp at signed
      | cons first others => simp_all
  · exact .inl rfl

theorem isNumeralPart_of_ofChars? {characters : List Char} {numeral : Numeral}
    (reads : ofChars? characters = some numeral) :
    ∀ character ∈ characters, Token.isNumeralPart character = true := by
  obtain ⟨unsigned, signed, _, fraction, rest, exponent, isFraction, isExponent⟩ := exists_unsigned reads
  have parts := isNumeralPart_of_row
    (isNumeralPart_of_fraction? isFraction (isNumeralPart_of_exponent? isExponent))
  rcases signed with rfl | rfl
  · exact parts
  · exact List.forall_mem_cons.mpr ⟨rfl, parts⟩

theorem starts_of_ofChars? {characters : List Char} {numeral : Numeral}
    (reads : ofChars? characters = some numeral) :
    ∃ first rest, characters = first :: rest ∧ (first.isDigit || first = '-') = true := by
  obtain ⟨unsigned, signed, nonempty, _⟩ := exists_unsigned reads
  rcases signed with rfl | rfl
  · cases characters with
    | nil => exact (nonempty rfl).elim
    | cons first rest =>
        refine ⟨first, rest, rfl, ?_⟩
        by_cases isDigit : first.isDigit <;> simp_all
  · exact ⟨'-', unsigned, rfl, rfl⟩

end Templating.Json.Numeral
