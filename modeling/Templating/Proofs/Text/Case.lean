import Mathlib.Data.List.Basic
import Mathlib.Data.Option.Basic
import Templating.Text.FileName

/-!
Texts that differ in the case of ASCII letters alone.

`Char.toLower` changes nothing but the ASCII capitals.  A text and the text with these changed have the
same letters in lower case, also where a sigma looks at its neighbours, and a file name and the file name
with these changed are taken apart at the same places.
-/

namespace Templating.Text

/-- Texts that differ at most in the case of ASCII letters. -/
def CaseTwins (first second : String) : Prop :=
  first.toList.map Char.toLower = second.toList.map Char.toLower

instance (first second : String) : Decidable (CaseTwins first second) :=
  inferInstanceAs (Decidable (_ = _))

def capitals : List Char :=
  (List.range 26).map fun place => Char.ofNat (65 + place)

theorem toLower_eq_self_or_mem (character : Char) :
    character.toLower = character ∨ character ∈ capitals := by
  unfold Char.toLower
  split
  · next capital =>
      right
      have least : 65 ≤ character.toNat := UInt32.le_iff_toNat_le.mp capital.1
      have greatest : character.toNat ≤ 90 := UInt32.le_iff_toNat_le.mp capital.2
      refine List.mem_map.mpr ⟨character.toNat - 65, List.mem_range.mpr (by omega), ?_⟩
      rw [Nat.add_sub_cancel' least]
      exact character.ofNat_toNat
  · exact .inl rfl

/-- What treats the capitals as the small letters treats every character as its small letter. -/
theorem congr_toLower {observe : Char → α}
    (agrees : capitals.map (fun capital => observe capital.toLower) = capitals.map observe)
    (character : Char) : observe character.toLower = observe character := by
  rcases toLower_eq_self_or_mem character with same | member
  · rw [same]
  · exact List.map_inj_left.mp agrees character member

/-- A mark that is no letter is not told from others by the case. -/
theorem toLower_eq_iff {mark : Char}
    (unlettered : capitals.map (fun capital => decide (capital.toLower = mark)) =
      capitals.map fun capital => decide (capital = mark))
    (character : Char) : character.toLower = mark ↔ character = mark :=
  decide_eq_decide.mp (@congr_toLower Bool (fun other => decide (other = mark)) unlettered character)

@[simp]
theorem toLower_eq_sigma_iff (character : Char) : character.toLower = 'Σ' ↔ character = 'Σ' :=
  toLower_eq_iff (by decide +kernel) character

@[simp]
theorem toLower_eq_dot_iff (character : Char) : character.toLower = '.' ↔ character = '.' :=
  toLower_eq_iff (by decide +kernel) character

@[simp]
theorem toLower_eq_slash_iff (character : Char) : character.toLower = '/' ↔ character = '/' :=
  toLower_eq_iff (by decide +kernel) character

@[simp]
theorem isCased_toLower (character : Char) : isCased character.toLower = isCased character :=
  congr_toLower (by decide +kernel) character

/-- The letters lie between the runs of what is passed over. -/
theorem not_isCaseIgnorable {character : Char}
    (letter : 65 ≤ character.toNat ∧ character.toNat ≤ 90 ∨ 97 ≤ character.toNat ∧ character.toNat ≤ 122) :
    isCaseIgnorable character = false := by
  have apart : caseIgnorableRuns.all (fun run =>
      decide (run.2 < 65 ∨ 122 < run.1 ∨ 90 < run.1 ∧ run.2 < 97)) = true := by decide +kernel
  refine List.any_eq_false.mpr fun run member => ?_
  have outside := of_decide_eq_true (List.all_eq_true.mp apart run member)
  simp only [Bool.and_eq_true, decide_eq_true_eq]
  omega

@[simp]
theorem isCaseIgnorable_toLower (character : Char) :
    isCaseIgnorable character.toLower = isCaseIgnorable character := by
  rcases toLower_eq_self_or_mem character with same | member
  · rw [same]
  · have letters : capitals.all (fun capital => decide (65 ≤ capital.toNat ∧ capital.toNat ≤ 90 ∧
        97 ≤ capital.toLower.toNat ∧ capital.toLower.toNat ≤ 122)) = true := by decide +kernel
    obtain ⟨least, greatest, small⟩ := of_decide_eq_true (List.all_eq_true.mp letters character member)
    rw [not_isCaseIgnorable (.inl ⟨least, greatest⟩), not_isCaseIgnorable (.inr small)]

@[simp]
theorem lowerChar_toLower (character : Char) : lowerChar character.toLower = lowerChar character :=
  congr_toLower (by decide +kernel) character

@[simp]
theorem startsCased_map (text : List Char) : startsCased (text.map Char.toLower) = startsCased text := by
  induction text with
  | nil => rfl
  | cons character rest ih => simp [startsCased, ih]

theorem lowerBehind_map (before text : List Char) :
    lowerBehind (before.map Char.toLower) (text.map Char.toLower) = lowerBehind before text := by
  induction text generalizing before with
  | nil => rfl
  | cons character rest ih =>
      have later := ih (character :: before)
      rw [List.map_cons] at later
      simp [lowerBehind, lowerSigma, later]

theorem lower_congr {first second : String} (twins : CaseTwins first second) :
    lower first = lower second := by
  have small (text : String) : lower text = String.ofList (lowerBehind [] (text.toList.map Char.toLower)) :=
    congrArg String.ofList (lowerBehind_map [] text.toList).symm
  rw [small first, small second, twins]

end Templating.Text

namespace Templating.FileName

open Text (CaseTwins)

/-! ## The extension of a file name -/

theorem components_map (path : List Char) :
    components (path.map Char.toLower) = (components path).map (List.map Char.toLower) := by
  unfold components
  induction path with
  | nil => rfl
  | cons character rest ih =>
      rw [List.map_cons, List.splitOn_cons_eq_if_modifyHead, List.splitOn_cons_eq_if_modifyHead, ih]
      by_cases slash : character = '/'
      · simp [slash]
      · have passed : (character.toLower == '/') = false := by simp [slash]
        have passed' : (character == '/') = false := by simp [slash]
        rw [passed, passed']
        cases rest.splitOn '/' <;> rfl

theorem base?_eq (path : List Char) :
    base? path = ((components path).filter fun component =>
      component ≠ [] ∧ component ≠ ['.']).getLast?.filter (· ≠ ['.', '.']) := by
  unfold base?
  generalize List.getLast? _ = last
  split
  · rfl
  · next other =>
      cases last with
      | none => rfl
      | some component =>
          have ordinary : component ≠ ['.', '.'] := fun parent => other (congrArg some parent)
          simp [Option.filter_some, ordinary]

theorem base?_map (path : List Char) :
    base? (path.map Char.toLower) = (base? path).map (List.map Char.toLower) := by
  have kept : (fun component : List Char => decide (component ≠ [] ∧ component ≠ ['.'])) ∘
      List.map Char.toLower = fun component => decide (component ≠ [] ∧ component ≠ ['.']) := by
    funext component
    simp [List.map_eq_cons_iff]
  have parent : (fun component : List Char => decide (component ≠ ['.', '.'])) ∘
      List.map Char.toLower = fun component => decide (component ≠ ['.', '.']) := by
    funext component
    simp [List.map_eq_cons_iff]
  rw [base?_eq, base?_eq, components_map, List.filter_map, List.getLast?_map, Option.filter_map, kept,
    parent]

theorem extensionOf?_map (name : List Char) :
    extensionOf? (name.map Char.toLower) = (extensionOf? name).map (List.map Char.toLower) := by
  have passed : (fun character : Char => decide (character ≠ '.')) ∘ Char.toLower =
      fun character => decide (character ≠ '.') := by
    funext character
    simp
  unfold extensionOf?
  simp only [← List.map_reverse, List.takeWhile_map, List.dropWhile_map, passed]
  rcases name.reverse.dropWhile (fun character => decide (character ≠ '.')) with
    _ | ⟨dot, _ | ⟨first, rest⟩⟩ <;> rfl

theorem extension?_twins {first second : String} (twins : CaseTwins first second) :
    Option.Rel CaseTwins (extension? first) (extension? second) := by
  have small (path : List Char) : ((base? path).bind extensionOf?).map (List.map Char.toLower) =
      (base? (path.map Char.toLower)).bind extensionOf? := by
    rw [base?_map]
    cases base? path with
    | none => rfl
    | some name => exact (extensionOf?_map name).symm
  have same := (small first.toList).trans ((congrArg (fun path => (base? path).bind extensionOf?)
    twins).trans (small second.toList).symm)
  unfold extension?
  cases found : (base? first.toList).bind extensionOf? <;>
    cases found' : (base? second.toList).bind extensionOf?
  all_goals simp only [found, found', Option.map_some, Option.map_none, reduceCtorEq] at same
  · exact .none
  · exact .some (by simpa [CaseTwins] using same)

/-! ## Spellings of an extension -/

/-- An extension spelled with more leading dots, and with ASCII letters in other cases. -/
def Respells (spelled extension : String) : Prop :=
  ∃ dots, CaseTwins spelled (String.ofList (List.replicate dots '.') ++ extension)

theorem normalExtension_twins {first second : String} (twins : CaseTwins first second) :
    normalExtension first = normalExtension second := by
  have dots : (fun character : Char => decide (character = '.')) ∘ Char.toLower =
      fun character => decide (character = '.') := by
    funext character
    simp
  refine Text.lower_congr ?_
  have same := congrArg (List.dropWhile fun character => decide (character = '.')) twins
  simpa [CaseTwins, List.dropWhile_map, dots] using same

theorem normalExtension_dots (dots : Nat) (extension : String) :
    normalExtension (String.ofList (List.replicate dots '.') ++ extension) = normalExtension extension := by
  have trimmed : (List.replicate dots '.' ++ extension.toList).dropWhile (· = '.') =
      extension.toList.dropWhile (· = '.') := by
    induction dots with
    | zero => rfl
    | succ dots ih => exact ih
  simp only [normalExtension, String.toList_append, String.toList_ofList, trimmed]

theorem Respells.normalExtension {spelled extension : String} (respells : Respells spelled extension) :
    normalExtension spelled = normalExtension extension := by
  obtain ⟨dots, twins⟩ := respells
  rw [normalExtension_twins twins, normalExtension_dots]

end Templating.FileName
