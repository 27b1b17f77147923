import Templating.Proofs.Markup.Outline

/-!
Encoded text, and what it is read back as.

A character is encoded on its own, so that the encoding of a text is that of its parts, and an
ampersand in encoded text is always the first character of an entity.  Reading entities back in one
pass therefore undoes the encoding, also where the text looked like entities before.
-/

namespace Templating

namespace Entity

variable {character : Char} {characters front rest : List Char} {text : String}

/-! ## One character -/

/-- A special character becomes an entity, which has no ampersand behind its first character. -/
theorem ofChar_of_special (special : isSpecial character = true) :
    ∃ name, ofChar character = '&' :: name ∧ name ≠ [] ∧ '&' ∉ name := by
  simp only [isSpecial, Bool.or_eq_true, decide_eq_true_eq] at special
  rcases special with (((rfl | rfl) | rfl) | rfl) | rfl
  · exact ⟨['a', 'm', 'p', ';'], rfl, by decide⟩
  · exact ⟨['l', 't', ';'], rfl, by decide⟩
  · exact ⟨['g', 't', ';'], rfl, by decide⟩
  · exact ⟨['q', 'u', 'o', 't', ';'], rfl, by decide⟩
  · exact ⟨['#', '3', '9', ';'], rfl, by decide⟩

theorem ofChar_of_plain (plain : isSpecial character = false) : ofChar character = [character] := by
  unfold ofChar
  split
  all_goals first | rfl | exact absurd plain (by decide)

theorem ne_ampersand_of_plain (plain : isSpecial character = false) : character ≠ '&' := by
  rintro rfl
  exact absurd plain (by decide)

theorem decodeChars_cons_of_ne (other : character ≠ '&') (rest : List Char) :
    decodeChars (character :: rest) = character :: decodeChars rest := by
  rw [decodeChars]
  all_goals exact fun _ first => absurd first other

theorem decodeChars_ofChar_append (character : Char) (rest : List Char) :
    decodeChars (ofChar character ++ rest) = character :: decodeChars rest := by
  cases special : isSpecial character with
  | false =>
      rw [ofChar_of_plain special]
      exact decodeChars_cons_of_ne (ne_ampersand_of_plain special) rest
  | true =>
      simp only [isSpecial, Bool.or_eq_true, decide_eq_true_eq] at special
      rcases special with (((rfl | rfl) | rfl) | rfl) | rfl <;> rfl

/-! ## Characters -/

@[simp]
theorem encodeChars_nil : encodeChars [] = [] := rfl

@[simp]
theorem encodeChars_cons (character : Char) (characters : List Char) :
    encodeChars (character :: characters) = ofChar character ++ encodeChars characters := rfl

theorem encodeChars_append (first second : List Char) :
    encodeChars (first ++ second) = encodeChars first ++ encodeChars second :=
  List.flatMap_append

theorem decodeChars_encodeChars (characters : List Char) :
    decodeChars (encodeChars characters) = characters := by
  induction characters with
  | nil => rfl
  | cons character rest ih => rw [encodeChars_cons, decodeChars_ofChar_append, ih]

theorem encodeChars_of_plain (plain : ∀ character ∈ characters, isSpecial character = false) :
    encodeChars characters = characters := by
  induction characters with
  | nil => rfl
  | cons character rest ih =>
      obtain ⟨first, others⟩ := List.forall_mem_cons.mp plain
      rw [encodeChars_cons, ofChar_of_plain first, ih others]
      rfl

theorem length_le_encodeChars (characters : List Char) :
    characters.length ≤ (encodeChars characters).length := by
  induction characters with
  | nil => exact Nat.le_refl _
  | cons character rest ih =>
      have one : 1 ≤ (ofChar character).length := by
        cases special : isSpecial character with
        | false => simp [ofChar_of_plain special]
        | true =>
            obtain ⟨name, entity, _⟩ := ofChar_of_special special
            simp [entity]
      rw [encodeChars_cons, List.length_append, List.length_cons]
      omega

theorem length_lt_encodeChars (member : character ∈ characters)
    (special : isSpecial character = true) : characters.length < (encodeChars characters).length := by
  obtain ⟨front, back, rfl⟩ := List.append_of_mem member
  obtain ⟨name, entity, some, _⟩ := ofChar_of_special special
  have longer := List.length_pos_of_ne_nil some
  have before := length_le_encodeChars front
  have behind := length_le_encodeChars back
  rw [encodeChars_append, encodeChars_cons, entity]
  simp only [List.length_append, List.length_cons]
  omega

/-- Each ampersand in encoded text starts the entity of a special character. -/
theorem entity_of_ampersand (split : encodeChars characters = front ++ '&' :: rest) :
    ∃ character, isSpecial character = true ∧ ofChar character <+: '&' :: rest := by
  induction characters generalizing front with
  | nil => simp at split
  | cons character characters ih =>
      rw [encodeChars_cons] at split
      cases special : isSpecial character with
      | false =>
          rw [ofChar_of_plain special, List.singleton_append] at split
          cases front with
          | nil => exact absurd (List.cons.inj split).1 (ne_ampersand_of_plain special)
          | cons _ front => exact ih (List.cons.inj split).2
      | true =>
          obtain ⟨name, entity, _, single⟩ := ofChar_of_special special
          cases front with
          | nil => exact ⟨character, special, _, split⟩
          | cons first front =>
              -- The ampersand lies behind the name of the entity that the text begins with.
              rw [entity, List.cons_append] at split
              obtain ⟨_, tails⟩ := List.cons.inj split
              rcases List.append_eq_append_iff.mp tails with ⟨more, rfl, later⟩ | ⟨more, rfl, later⟩
              · exact ih later
              · cases more with
                | nil => exact @ih [] later.symm
                | cons second more =>
                    obtain ⟨rfl, _⟩ := List.cons.inj later
                    exact absurd (by simp) single

/-! ## Texts -/

theorem encode_toList (text : String) : (encode text).text.toList = encodeChars text.toList := by
  unfold encode
  split
  · simp
  · next plain =>
      have plain : ∀ character ∈ text.toList, isSpecial character = false := by simpa using plain
      exact (encodeChars_of_plain plain).symm

theorem encode_append (first second : String) :
    (encode (first ++ second)).text = (encode first).text ++ (encode second).text := by
  rw [← String.toList_inj, String.toList_append]
  simp only [encode_toList, String.toList_append, encodeChars_append]

theorem decode_encode (text : String) : decode (encode text).text = text := by
  rw [decode, encode_toList, decodeChars_encodeChars, String.ofList_toList]

theorem encode_untouched_iff (text : String) :
    (encode text).untouched = true ↔ ∀ character ∈ text.toList, isSpecial character = false := by
  unfold encode
  split
  · next special => simpa using special
  · next plain => simpa using plain

theorem encode_eq_self_iff (text : String) :
    (encode text).text = text ↔ ∀ character ∈ text.toList, isSpecial character = false := by
  constructor
  · intro same character member
    by_contra special
    have longer := length_lt_encodeChars member (Bool.not_eq_false _ ▸ special)
    rw [← encode_toList, same] at longer
    exact absurd longer (Nat.lt_irrefl _)
  · intro plain
    rw [← String.toList_inj, encode_toList, encodeChars_of_plain plain]

theorem unmarked_of_mem_encode (member : character ∈ (encode text).text.toList) :
    isMark character = false := by
  have unmarked := List.filter_eq_nil_iff.mp (marks_encode text) character member
  simpa using unmarked

end Entity

namespace Value

variable {value : Value}

/-- Only markup is spared by the encoded path, and only where it is the value itself. -/
theorem markup_html (encoded : ∀ markup, value ≠ .raw markup) :
    value.markup .html = (Entity.encode value.display).text := by
  cases value with
  | null => rfl
  | raw markup => exact absurd rfl (encoded markup)
  | _ => rfl

theorem markup_raw (value : Value) : value.markup .raw = value.display := by
  cases value <;> rfl

end Value

namespace Entity

/-- Encoding keeps marks out of a text and loses nothing of it, and a value's text is encoded as a
whole, with whatever markup is inside the value. -/
theorem encoding_loses_nothing :
    (∀ text,
      (∀ character ∈ (encode text).text.toList, isMark character = false) ∧
      (∀ front rest, (encode text).text.toList = front ++ '&' :: rest →
        ∃ character, isSpecial character = true ∧ ofChar character <+: '&' :: rest) ∧
      decode (encode text).text = text ∧
      ((encode text).untouched = true ↔ (encode text).text = text) ∧
      ((encode text).untouched = true ↔ ∀ character ∈ text.toList, isSpecial character = false)) ∧
    (∀ first second, (encode first).text = (encode second).text → first = second) ∧
    (∀ first second, (encode (first ++ second)).text = (encode first).text ++ (encode second).text) ∧
    (∀ (value : Value) sink, (∀ markup, value ≠ .raw markup) →
      ∃ written, value.write sink .html = sink ++ written ∧
        written = (encode value.display).text ∧ decode written = value.display) ∧
    (∀ (value : Value) sink, value.write sink .raw = sink ++ value.display ∧
      value.writeLiteral sink = sink ++ value.display) ∧
    ∀ text sink, Value.null.writeLiteral sink = sink ∧
      (Value.text text).writeLiteral sink = sink ++ text ∧
      (Value.raw text).writeLiteral sink = sink ++ text := by
  refine ⟨fun text => ⟨fun _ => unmarked_of_mem_encode, fun front rest split => ?_,
    decode_encode text, ?_, encode_untouched_iff text⟩, fun first second same => ?_, encode_append,
    fun value sink encoded => ?_, fun value sink => ⟨?_, value.writeLiteral_eq_append sink⟩,
    fun text sink => ⟨?_, rfl, rfl⟩⟩
  · rw [encode_toList] at split
    exact entity_of_ampersand split
  · rw [encode_untouched_iff, encode_eq_self_iff]
  · rw [← decode_encode first, same, decode_encode]
  · have written := Value.markup_html encoded
    exact ⟨value.markup .html, rfl, written, by rw [written, decode_encode]⟩
  · rw [Value.write, Value.markup_raw]
  · exact String.append_empty

/-- Markup in a list and in a map, next to text that looks like an entity already. -/
def nested : Value :=
  .list [.raw "<b>", .map [("k", .raw "&lt;")], .text "&amp;lt;", .null]

theorem nested_read_back :
    (∀ markup, nested ≠ .raw markup) ∧
    nested.display = "<b>, \x7b\"k\":\"&lt;\"\x7d, &amp;lt;, " ∧
    ∃ written, nested.write "<p>" .html = "<p>" ++ written ∧
      written = (encode nested.display).text ∧ decode written = nested.display := by
  have encoded : ∀ markup, nested ≠ .raw markup := fun _ same => nomatch same
  obtain ⟨_, _, _, html, _⟩ := encoding_loses_nothing
  exact ⟨encoded, by decide +kernel, html nested "<p>" encoded⟩

end Entity
end Templating
