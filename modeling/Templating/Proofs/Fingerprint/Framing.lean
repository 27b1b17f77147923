import Mathlib.Algebra.Group.Nat.Defs
import Templating.Fingerprint

/-!
What a fingerprint tells about the texts that it was computed from.

A framed field can be read off the front of any bytes that start with it, so that the three frames one
after the other stand for one triple only.  The digits of a digest give its words back, and the text of a
fingerprint tells as much as the digest does.
-/

namespace Templating

/-- Two numbers of no more than `count` digits that agree in each of them. -/
theorem eq_of_digits (base count : Nat) {first second : Nat} (small : first < base ^ count)
    (small' : second < base ^ count)
    (same : ∀ index < count, first / base ^ index % base = second / base ^ index % base) :
    first = second := by
  induction count generalizing first second with
  | zero =>
      rw [Nat.pow_zero, Nat.lt_one_iff] at small small'
      rw [small, small']
  | succ count ih =>
      have positive : 0 < base := by
        rcases Nat.eq_zero_or_pos base with rfl | positive
        · simp at small
        · exact positive
      have lowest : first % base = second % base := by simpa using same 0 (Nat.succ_pos count)
      have higher : first / base = second / base := by
        refine ih ?_ ?_ fun index within => ?_
        · rw [Nat.div_lt_iff_lt_mul positive, ← Nat.pow_succ]
          exact small
        · rw [Nat.div_lt_iff_lt_mul positive, ← Nat.pow_succ]
          exact small'
        · simpa only [Nat.pow_succ', Nat.div_div_eq_div_mul] using
            same (index + 1) (Nat.succ_lt_succ within)
      rw [← Nat.div_add_mod first base, ← Nat.div_add_mod second base, higher, lowest]

namespace Sha256

/-- The lower-case hexadecimal digits. -/
def isHexDigit (character : Char) : Bool :=
  '0' ≤ character && character ≤ '9' || 'a' ≤ character && character ≤ 'f'

@[simp]
theorem length_hexWord (word : UInt32) : (hexWord word).length = 8 := by
  simp [hexWord]

theorem digitChar_inj {first second : Nat} (small : first < 16) (small' : second < 16)
    (same : Nat.digitChar first = Nat.digitChar second) : first = second := by
  have all : ∀ first < 16, ∀ second < 16, Nat.digitChar first = Nat.digitChar second →
      first = second := by decide
  exact all first small second small' same

theorem hexWord_inj {first second : UInt32} (same : hexWord first = hexWord second) :
    first = second := by
  refine UInt32.toNat_inj.mp (eq_of_digits 16 8 first.toNat_lt second.toNat_lt ?_)
  intro index within
  -- The digits are listed from the highest to the lowest.
  have shown := List.map_inj_left.mp same (7 - index) (List.mem_range.mpr (by omega))
  have place : 4 * (7 - (7 - index)) = 4 * index := by omega
  rw [place, Nat.shiftRight_eq_div_pow, Nat.shiftRight_eq_div_pow, Nat.pow_mul] at shown
  exact digitChar_inj (Nat.mod_lt _ (by decide)) (Nat.mod_lt _ (by decide)) shown

theorem isHexDigit_of_mem_hexWord {word : UInt32} {digit : Char} (member : digit ∈ hexWord word) :
    isHexDigit digit = true := by
  have all : ∀ value < 16, isHexDigit (Nat.digitChar value) = true := by decide
  obtain ⟨index, _, rfl⟩ := List.mem_map.mp member
  exact all _ (Nat.mod_lt _ (by decide))

theorem Digest.length_hex (digest : Digest) : digest.hex.length = 64 := by
  simp [Digest.hex]

theorem Digest.isHexDigit_of_mem_hex {digest : Digest} {digit : Char} (member : digit ∈ digest.hex) :
    isHexDigit digit = true := by
  simp only [Digest.hex, List.mem_append, or_assoc] at member
  rcases member with word | word | word | word | word | word | word | word <;>
    exact isHexDigit_of_mem_hexWord word

theorem Digest.hex_inj {first second : Digest} (same : first.hex = second.hex) : first = second := by
  unfold Digest.hex at same
  have last {front front' : List Char} {word word' : UInt32}
      (same : front ++ hexWord word = front' ++ hexWord word') : front = front' ∧ word = word' := by
    obtain ⟨fronts, words⟩ := List.append_inj' same (by simp)
    exact ⟨fronts, hexWord_inj words⟩
  obtain ⟨same, h⟩ := last same
  obtain ⟨same, g⟩ := last same
  obtain ⟨same, f⟩ := last same
  obtain ⟨same, e⟩ := last same
  obtain ⟨same, d⟩ := last same
  obtain ⟨same, c⟩ := last same
  obtain ⟨same, b⟩ := last same
  have a := hexWord_inj same
  cases first
  cases second
  simp only [Digest.mk.injEq]
  exact ⟨a, b, c, d, e, f, g, h⟩

end Sha256

namespace Fingerprint

@[simp]
theorem length_littleEndian (value : Nat) : (littleEndian value).length = 8 := by
  simp [littleEndian]

theorem littleEndian_inj {first second : Nat} (small : first < 2 ^ 64) (small' : second < 2 ^ 64)
    (same : littleEndian first = littleEndian second) : first = second := by
  refine eq_of_digits (2 ^ 8) 8 (by simpa using small) (by simpa using small')
    fun index within => ?_
  have shown := List.map_inj_left.mp same index (List.mem_range.mpr within)
  simpa only [Nat.shiftRight_eq_div_pow, Nat.pow_mul, UInt8.toNat_ofNat'] using
    congrArg UInt8.toNat shown

/-- A field whose length can be written in the eight bytes that lead it. -/
def FitsFrame (field : Option String) : Prop :=
  ∀ text ∈ field, text.utf8ByteSize < 2 ^ 64

theorem length_toUTF8 (text : String) : text.toUTF8.data.toList.length = text.utf8ByteSize :=
  rfl

/-- A frame tells its own end, so that it does not matter what follows it. -/
theorem frame_append_inj {field field' : Option String} {rest rest' : List UInt8}
    (fits : FitsFrame field) (fits' : FitsFrame field')
    (same : frame field ++ rest = frame field' ++ rest') : field = field' ∧ rest = rest' := by
  match field, field' with
  | none, none => exact ⟨rfl, by simpa [frame] using same⟩
  | none, some text => simp [frame] at same
  | some text, none => simp [frame] at same
  | some text, some text' =>
      simp only [frame, List.cons_append, List.append_assoc, List.cons.injEq, true_and] at same
      obtain ⟨lengths, same⟩ := List.append_inj same (by simp)
      have length := littleEndian_inj (fits text rfl) (fits' text' rfl) lengths
      obtain ⟨bytes, rests⟩ :=
        List.append_inj same (by rw [length_toUTF8, length_toUTF8, length])
      have texts : text = text' :=
        String.toByteArray_inj.mp (ByteArray.ext (Array.toList_inj.mp bytes))
      exact ⟨congrArg some texts, rests⟩

/-- Texts of a triple that all fit their frames. -/
structure FitsFrames (content : String) (fileName : Option String) (modelType : ModelType) : Prop where
  content : FitsFrame (some content)
  fileName : FitsFrame fileName
  modelType : FitsFrame (some modelType.name)

theorem framed_inj {content content' : String} {fileName fileName' : Option String}
    {modelType modelType' : ModelType} (fits : FitsFrames content fileName modelType)
    (fits' : FitsFrames content' fileName' modelType')
    (same : framed content fileName modelType = framed content' fileName' modelType') :
    content = content' ∧ fileName = fileName' ∧ modelType = modelType' := by
  simp only [framed, List.append_assoc] at same
  obtain ⟨contents, same⟩ := frame_append_inj fits.content fits'.content same
  obtain ⟨fileNames, same⟩ := frame_append_inj fits.fileName fits'.fileName same
  obtain ⟨types, _⟩ := frame_append_inj fits.modelType fits'.modelType (congrArg (· ++ []) same)
  refine ⟨Option.some.inj contents, fileNames, ?_⟩
  cases modelType
  cases modelType'
  exact congrArg ModelType.mk (Option.some.inj types)

theorem text_inj {first second : Fingerprint} (same : first.text = second.text) : first = second := by
  have hex := String.ofList_injective ((String.append_right_inj "tpl_").mp same)
  cases first
  cases second
  exact congrArg Fingerprint.mk (Sha256.Digest.hex_inj hex)

theorem exists_digits (fingerprint : Fingerprint) :
    ∃ digits : List Char, fingerprint.text = "tpl_" ++ String.ofList digits ∧ digits.length = 64 ∧
      ∀ digit ∈ digits, Sha256.isHexDigit digit = true :=
  ⟨fingerprint.digest.hex, rfl, fingerprint.digest.length_hex,
    fun _ => Sha256.Digest.isHexDigit_of_mem_hex⟩

/-- The framed bytes of two triples are the same only if the triples are, and as long as the digest tells
the two sequences of bytes apart, so do the fingerprints and their texts. -/
theorem triples_told_apart :
    (∀ content content' fileName fileName' modelType modelType',
      FitsFrames content fileName modelType → FitsFrames content' fileName' modelType' →
      (framed content fileName modelType = framed content' fileName' modelType' ↔
        content = content' ∧ fileName = fileName' ∧ modelType = modelType') ∧
      ((Sha256.hash (framed content fileName modelType) =
            Sha256.hash (framed content' fileName' modelType') →
          framed content fileName modelType = framed content' fileName' modelType') →
        (compute content fileName modelType = compute content' fileName' modelType' ↔
          content = content' ∧ fileName = fileName' ∧ modelType = modelType') ∧
        ((compute content fileName modelType).text = (compute content' fileName' modelType').text ↔
          content = content' ∧ fileName = fileName' ∧ modelType = modelType'))) ∧
    ∀ content fileName modelType, ∃ digits : List Char,
      (compute content fileName modelType).text = "tpl_" ++ String.ofList digits ∧
        digits.length = 64 ∧ ∀ digit ∈ digits, Sha256.isHexDigit digit = true := by
  refine ⟨?_, fun content fileName modelType => (compute content fileName modelType).exists_digits⟩
  intro content content' fileName fileName' modelType modelType' fits fits'
  refine ⟨⟨framed_inj fits fits', ?_⟩, fun collisionFree => ?_⟩
  · rintro ⟨rfl, rfl, rfl⟩
    rfl
  · have computed (same : compute content fileName modelType = compute content' fileName' modelType') :
        content = content' ∧ fileName = fileName' ∧ modelType = modelType' :=
      framed_inj fits fits' (collisionFree (congrArg digest same))
    refine ⟨⟨computed, ?_⟩, ⟨fun same => computed (text_inj same), ?_⟩⟩ <;>
      (rintro ⟨rfl, rfl, rfl⟩; rfl)

theorem fitsFrames_of_lt {content : String} {fileName : Option String} {modelType : ModelType}
    (small : content.utf8ByteSize + (fileName.getD "").utf8ByteSize +
      modelType.name.utf8ByteSize < 2 ^ 64) :
    FitsFrames content fileName modelType where
  content text member := by cases member; omega
  fileName text member := by
    cases member
    rw [Option.getD_some] at small
    omega
  modelType text member := by cases member; omega

/-- A letter that moves from the content to the name of the file makes another fingerprint. -/
theorem moved_letter_told_apart :
    FitsFrames "né" (some "e") .dynamic ∧ FitsFrames "n" (some "ée") .dynamic ∧
    (Sha256.hash (framed "né" (some "e") .dynamic) = Sha256.hash (framed "n" (some "ée") .dynamic) →
      framed "né" (some "e") .dynamic = framed "n" (some "ée") .dynamic) ∧
    framed "né" (some "e") .dynamic ≠ framed "n" (some "ée") .dynamic ∧
    (compute "né" (some "e") .dynamic).text ≠ (compute "n" (some "ée") .dynamic).text := by
  have fits : FitsFrames "né" (some "e") .dynamic := fitsFrames_of_lt (by decide)
  have fits' : FitsFrames "n" (some "ée") .dynamic := fitsFrames_of_lt (by decide)
  have collisionFree : Sha256.hash (framed "né" (some "e") .dynamic) =
        Sha256.hash (framed "n" (some "ée") .dynamic) →
      framed "né" (some "e") .dynamic = framed "n" (some "ée") .dynamic :=
    fun same => absurd same (by decide +kernel)
  obtain ⟨apart, _⟩ := triples_told_apart
  obtain ⟨bytes, told⟩ := apart _ _ _ _ _ _ fits fits'
  obtain ⟨_, texts⟩ := told collisionFree
  have different : ¬ ("né" = "n" ∧ some "e" = some "ée" ∧ ModelType.dynamic = .dynamic) := by decide
  exact ⟨fits, fits', collisionFree, mt bytes.mp different, mt texts.mp different⟩

end Fingerprint
end Templating
