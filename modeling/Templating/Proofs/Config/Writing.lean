import Mathlib.Data.List.Forall2
import Templating.Config.Decode
import Templating.Proofs.Json.Numeral

/-!
Values as nodes that stand for them.

A value may be written as more than one node, since a text stands between quotes or not.  Each kind of setting
is read from every node that its value is written as.
-/

namespace Templating.Yaml

mutual

/-- The nodes that a value is written as.  A text and a name may stand between quotes or not. -/
inductive Writes : Json → Node → Prop where
  | null : Writes .null (.scalar .plain "null")
  | bool (value : Bool) : Writes (.bool value) (.scalar .plain (if value then "true" else "false"))
  | int (value : Int) : Writes (.int value) (.scalar .plain (toString value))
  | text (style : ScalarStyle) (value : String) : Writes (.text value) (.scalar style value)
  | array (items : List.Forall₂ Writes values nodes) : Writes (.array values) (.sequence nodes)
  | object (written : WritesMembers members entries) : Writes (.object members) (.mapping entries)

inductive WritesMembers : List (String × Json) → List (Node × Node) → Prop where
  | nil : WritesMembers [] []
  | cons (style : ScalarStyle) (name : String) (first : Writes value node)
      (rest : WritesMembers members entries) :
      WritesMembers ((name, value) :: members) ((.scalar style name, node) :: entries)

end

/-- Whether the key of an entry is a name, in whatever style. -/
def isNamed (name : String) (entry : Node × Node) : Bool :=
  match entry.1 with
  | .scalar _ text => text = name
  | _ => false

theorem WritesMembers.exists_member {members : List (String × Json)} {entries : List (Node × Node)}
    (writes : WritesMembers members entries) :
    ∀ entry ∈ entries, ∃ style name value, entry.1 = .scalar style name ∧ (name, value) ∈ members ∧
      Writes value entry.2 := by
  induction members generalizing entries with
  | nil =>
      cases writes
      simp
  | cons member members ih =>
      cases writes with
      | cons style name first rest =>
          intro entry among
          rcases List.mem_cons.mp among with rfl | later
          · exact ⟨style, name, _, rfl, List.mem_cons_self, first⟩
          · obtain ⟨style, name, value, named, held, writes⟩ := ih rest entry later
            exact ⟨style, name, value, named, List.mem_cons_of_mem _ held, writes⟩

theorem WritesMembers.countP_isNamed {members : List (String × Json)} {entries : List (Node × Node)}
    (writes : WritesMembers members entries) (name : String) :
    entries.countP (isNamed name) = (members.map Prod.fst).count name := by
  induction members generalizing entries with
  | nil =>
      cases writes
      rfl
  | cons member members ih =>
      cases writes with
      | cons style first _ rest =>
          simp [List.countP_cons, List.count_cons, isNamed, ih rest]

theorem exists_writes_texts (texts : List String) : ∃ node, Writes (.array (texts.map .text)) node := by
  refine ⟨.sequence (texts.map (.scalar .quoted)), .array ?_⟩
  induction texts with
  | nil => exact .nil
  | cons text rest ih => exact .cons (.text .quoted text) ih

/-! ## Values that are read -/

theorem decodeBool?_of_writes {value : Bool} {node : Node} (writes : Writes (.bool value) node) :
    decodeBool? node = some value := by
  cases writes
  cases value <;> simp [decodeBool?]

theorem decodeTexts?_of_writes {texts : List String} {node : Node}
    (writes : Writes (.array (texts.map .text)) node) : decodeTexts? node = some texts := by
  cases writes with
  | @array _ nodes items =>
      simp only [decodeTexts?]
      induction texts generalizing nodes with
      | nil =>
          cases items
          rfl
      | cons text rest ih =>
          cases items with
          | cons first items =>
              cases first
              simp [ih items, decodeText?]

theorem decodeEncoding?_of_writes {encoding : Encoding} {node : Node}
    (writes : Writes (.text encoding.name) node) : decodeEncoding? node = some encoding := by
  cases writes
  cases encoding <;> simp [decodeEncoding?, Encoding.name]

theorem decodeFailurePolicy?_of_writes {policy : FailurePolicy} {node : Node}
    (writes : Writes (.text policy.name) node) : decodeFailurePolicy? node = some policy := by
  cases writes
  cases policy <;> simp [decodeFailurePolicy?, FailurePolicy.name]

theorem foldlM_digits (digits : List Char) (value? : Char → Option Nat) (value : Nat)
    (reads : ∀ character ∈ digits, value? character = some (Json.Numeral.digit character)) :
    digits.foldlM (fun value digit => (value? digit).map (10 * value + ·)) value =
      some ((digits.map Json.Numeral.digit).foldl (fun value digit => 10 * value + digit) value) := by
  induction digits generalizing value with
  | nil => rfl
  | cons first rest ih =>
      have here := reads first List.mem_cons_self
      have later := ih (10 * value + Json.Numeral.digit first) fun character member =>
        reads character (List.mem_cons_of_mem _ member)
      simpa [here] using later

theorem digit_lt {character : Char} (isDigit : character.isDigit = true) :
    Json.Numeral.digit character < 10 := by
  simp only [Char.isDigit, Bool.and_eq_true, decide_eq_true_eq, UInt32.le_iff_toNat_le] at isDigit
  have zero : '0'.toNat = 48 := rfl
  have upper : character.toNat ≤ 57 := isDigit.2
  simp only [Json.Numeral.digit]
  omega

theorem digits?_of_digits {digits : List Char} (nonempty : digits ≠ [])
    (isDigit : ∀ character ∈ digits, character.isDigit = true) :
    digits? 10 digits = some (Json.Numeral.valueOf (digits.map Json.Numeral.digit)) := by
  unfold digits?
  simp only [List.isEmpty_iff, nonempty, if_false]
  apply foldlM_digits
  intro character member
  have small := digit_lt (isDigit character member)
  simp only [hexDigit?, isDigit character member, if_true]
  exact Option.filter_some_pos (by simpa [Json.Numeral.digit] using small)

/-- A number is written without a sign and without leading zeros. -/
theorem natural?_toString (value : Nat) : natural? (toString value).toList = some value := by
  have written : (toString value).toList = Nat.toDigits 10 value := by simp
  have row := Json.Numeral.isRow_toDigits value
  have reads := digits?_of_digits row.nonempty row.digits
  rw [Json.Numeral.valueOf_toDigits] at reads
  have unsigned : (Nat.toDigits 10 value).head? ≠ some '+' := by
    intro sign
    have plus := row.digits '+' (List.mem_of_head? sign)
    contradiction
  have single (second : Char) (rest : List Char) : Nat.toDigits 10 value ≠ '0' :: second :: rest := by
    intro same
    have one := row.lead (by rw [same]; rfl)
    simp [same] at one
  rw [written, natural?]
  simp only [unsigned, if_false]
  split
  · next same => exact absurd same (single _ _)
  · next same => exact absurd same (single _ _)
  · next same => exact absurd same (single _ _)
  · next same => exact absurd same (single _ _)
  · exact reads

theorem decodeCapacity?_toString {value : Nat} (small : value < UInt64.size) :
    decodeCapacity? (.scalar .plain (toString value)) = some (some value) := by
  have reads := natural?_toString value
  have null (text : String) (none : natural? text.toList = .none) : toString value ≠ text := by
    rintro rfl
    cases reads.symm.trans none
  simp only [decodeCapacity?, reads, small, if_true]
  simp only [null "" rfl, null "~" rfl, null "null" rfl, null "Null" rfl, null "NULL" rfl, or_self, if_false]

theorem decodeCapacity?_of_writes {value : Nat} {node : Node} (writes : Writes (.int value) node)
    (small : value < UInt64.size) : decodeCapacity? node = some (some value) := by
  cases writes
  exact decodeCapacity?_toString small

end Templating.Yaml
