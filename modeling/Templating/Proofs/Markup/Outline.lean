import Mathlib.Data.List.Forall2
import Templating.Producer
import Templating.Proofs.Markup.Format

/-!
What is left of a page when the texts are taken out of it.

The marks of a page are its characters that can open or close a tag or the value of an attribute.  The
outline of a value keeps its kind: texts are blank, and markup is cut down to its marks.  On the
encoded path the marks that a value leaves depend on its outline only, and so do those of an attribute
whose literal segments are the same.
-/

namespace Templating

namespace Entity

/-- The characters that can open or close a tag or the value of an attribute. -/
def isMark (character : Char) : Bool :=
  character = '<' || character = '>' || character = '"' || character = '\''

def marks (text : String) : List Char :=
  text.toList.filter isMark

@[simp]
theorem marks_empty : marks "" = [] := rfl

@[simp]
theorem marks_append (first second : String) :
    marks (first ++ second) = marks first ++ marks second := by
  simp [marks]

theorem marks_ofList_marks (text : String) : marks (String.ofList (marks text)) = marks text := by
  simp [marks]

theorem ofChar_unmarked (character : Char) : (ofChar character).filter isMark = [] := by
  unfold ofChar
  split
  all_goals first | rfl | simp_all [isMark]

@[simp]
theorem marks_encode (text : String) : marks (encode text).text = [] := by
  unfold encode
  split
  · simp [marks, encodeChars, List.filter_flatMap, ofChar_unmarked]
  · next plain =>
      refine List.filter_eq_nil_iff.mpr fun character member mark => plain ?_
      refine List.any_eq_true.mpr ⟨character, member, ?_⟩
      simp only [isMark, Bool.or_eq_true] at mark
      simp only [isSpecial, Bool.or_eq_true]
      tauto

end Entity

open Entity (marks)

namespace Value

mutual

def outline : Value → Value
  | .null => .null
  | .bool value => .bool value
  | .int value => .int value
  | .float value => .float value
  | .text _ => .text ""
  | .raw markup => .raw (String.ofList (marks markup))
  | .list items => .list (outlineItems items)
  | .map entries => .map (outlineEntries entries)

def outlineItems : List Value → List Value
  | [] => []
  | item :: rest => outline item :: outlineItems rest

def outlineEntries : List (String × Value) → List (String × Value)
  | [] => []
  | (name, value) :: rest => (name, outline value) :: outlineEntries rest

end

/-- A value whose text the encoded path always encodes, and that an attribute always shows. -/
def isPlain : Value → Bool
  | .null | .bool _ | .raw _ => false
  | _ => true

/-- Two values that leave the same marks on the encoded path. -/
inductive Written : Value → Value → Prop where
  | same (value : Value) : Written value value
  | plain (plain : value.isPlain = true) (plain' : value'.isPlain = true) : Written value value'
  | markup (same : marks first = marks second) : Written (.raw first) (.raw second)

/-- Two values that leave the same marks where they are written as they are. -/
inductive Verbatim : Value → Value → Prop where
  | same (value : Value) : Verbatim value value
  | text (same : marks first = marks second) : Verbatim (.text first) (.text second)
  | markup (same : marks first = marks second) : Verbatim (.raw first) (.raw second)

variable {value value' : Value}

theorem marks_markup_of_isPlain (plain : value.isPlain = true) : marks (value.markup .html) = [] := by
  cases value with
  | null | bool | raw => simp [isPlain] at plain
  | _ => exact Entity.marks_encode _

theorem Written.marks_markup (written : value.Written value') :
    marks (value.markup .html) = marks (value'.markup .html) := by
  cases written with
  | same => rfl
  | plain plain plain' => rw [marks_markup_of_isPlain plain, marks_markup_of_isPlain plain']
  | markup same => exact same

theorem written_of_outline (same : value.outline = value'.outline) : value.Written value' := by
  cases value <;> cases value' <;> simp only [outline, reduceCtorEq] at same
  case null => exact .same _
  case bool => exact same ▸ .same _
  case raw markup markup' =>
    have marked : String.ofList (marks markup) = String.ofList (marks markup') := by
      simpa using same
    exact .markup (by simpa [Entity.marks_ofList_marks] using congrArg marks marked)
  all_goals exact .plain rfl rfl

theorem Verbatim.written (verbatim : value.Verbatim value') : value.Written value' := by
  cases verbatim with
  | same => exact .same _
  | text => exact .plain rfl rfl
  | markup same => exact .markup same

theorem Verbatim.marks_display (verbatim : value.Verbatim value') :
    marks value.display = marks value'.display := by
  cases verbatim with
  | same => rfl
  | text same | markup same => simpa [Value.display] using same

theorem Written.eq_null_iff (written : value.Written value') : value = .null ↔ value' = .null := by
  cases written with
  | same => rfl
  | plain plain plain' =>
      have ne {value : Value} (plain : value.isPlain = true) : value ≠ .null := by
        rintro rfl
        contradiction
      simp [ne plain, ne plain']
  | markup => simp

theorem Written.eq_bool_iff (written : value.Written value') (flag : Bool) :
    value = .bool flag ↔ value' = .bool flag := by
  cases written with
  | same => rfl
  | plain plain plain' =>
      have ne {value : Value} (plain : value.isPlain = true) : value ≠ .bool flag := by
        rintro rfl
        contradiction
      simp [ne plain, ne plain']
  | markup => simp

end Value

/-- What is left of a producer without the texts that it was produced from. -/
def Producer.outline : Producer → Option (List Char)
  | .empty => none
  | .rendered text => some (marks text)

theorem Producer.toValue_verbatim {producer producer' : Producer}
    (same : producer.outline = producer'.outline) :
    Value.Verbatim (toValue producer) (toValue producer') := by
  cases producer <;> cases producer' <;> simp only [Producer.outline, reduceCtorEq] at same
  · exact .same _
  · exact .markup (Option.some.inj same)

/-! ## Attributes -/

/-- Two segments that leave the same marks. -/
structure Segment.Alike (segment segment' : Segment) : Prop where
  lead : segment.lead.value = segment'.lead.value
  literal : segment.literal = segment'.literal
  written : segment.value.value.Written segment'.value.value
  verbatim : segment.literal = true → segment.value.value.Verbatim segment'.value.value

structure Attribute.Alike (declared declared' : Attribute) : Prop where
  name : declared.name = declared'.name
  opening : declared.opening.value = declared'.opening.value
  closing : declared.closing.value = declared'.closing.value
  segments : List.Forall₂ Segment.Alike declared.segments declared'.segments

namespace Attribute

inductive Progress.Alike : Progress → Progress → Prop where
  | dropped : Alike .dropped .dropped
  | pending : Alike .pending .pending
  | staged (same : marks text = marks text') : Alike (.staged text) (.staged text')

structure Shown (literal : Bool) (value value' : Value) : Prop where
  written : value.Written value'
  verbatim : literal = true → value.Verbatim value'

variable {declared declared' : Attribute} {segment segment' : Segment} {value value' : Value}
  {progress progress' : Progress}

theorem marks_append_segment (alike : segment.Alike segment') (shown : Shown segment.literal value value')
    {before before' : String} (same : marks before = marks before') (lead : String) :
    marks (append segment .html before lead value) =
      marks (append segment' .html before' lead value') := by
  unfold append
  rw [← alike.literal]
  split
  · next literal => simp [Value.writeLiteral, same, (shown.verbatim literal).marks_display]
  · simp [Value.write, same, shown.written.marks_markup]

theorem shown?_alike (names : declared.name = declared'.name) (alike : segment.Alike segment') :
    Option.Rel (Shown segment.literal) (declared.shown? segment) (declared'.shown? segment') := by
  by_cases absent : segment.value.value = .null
  · have absent' := alike.written.eq_null_iff.mp absent
    simp only [shown?, absent, absent']
    exact .none
  · have present' := mt alike.written.eq_null_iff.mpr absent
    by_cases named : segment.value.value = .bool true
    · have named' := (alike.written.eq_bool_iff true).mp named
      simp only [shown?, named, named', names]
      exact .some ⟨.same _, fun _ => .same _⟩
    · have other' := mt (alike.written.eq_bool_iff true).mpr named
      rw [shown?_of_ne absent named, shown?_of_ne present' other']
      exact .some ⟨alike.written, alike.verbatim⟩

theorem advance_alike (names : declared.name = declared'.name)
    (openings : declared.opening.value = declared'.opening.value) (alike : segment.Alike segment')
    (stages : progress.Alike progress') :
    Progress.Alike (declared.advance .html progress segment)
      (declared'.advance .html progress' segment') := by
  by_cases falsy : segment.value.value = .bool false
  · have falsy' := (alike.written.eq_bool_iff false).mp falsy
    rw [advance_of_false falsy, advance_of_false falsy']
    exact .dropped
  · have kept' := mt (alike.written.eq_bool_iff false).mpr falsy
    have shows := shown?_alike names alike
    cases stages with
    | dropped => exact .dropped
    | pending =>
        rw [advance_pending falsy, advance_pending kept', openings]
        generalize declared.shown? segment = shown, declared'.shown? segment' = shown' at shows ⊢
        cases shows with
        | none => exact .pending
        | some shown => exact .staged (marks_append_segment alike shown rfl _)
    | staged same =>
        rw [advance_staged falsy, advance_staged kept', alike.lead]
        generalize declared.shown? segment = shown, declared'.shown? segment' = shown' at shows ⊢
        cases shows with
        | none => exact .staged same
        | some shown => exact .staged (marks_append_segment alike shown same _)

theorem foldl_advance_alike (names : declared.name = declared'.name)
    (openings : declared.opening.value = declared'.opening.value)
    {segments segments' : List Segment} (alike : List.Forall₂ Segment.Alike segments segments')
    (stages : progress.Alike progress') :
    Progress.Alike (segments.foldl (declared.advance .html) progress)
      (segments'.foldl (declared'.advance .html) progress') := by
  induction alike generalizing progress progress' with
  | nil => exact stages
  | cons first rest ih => exact ih (advance_alike names openings first stages)

theorem marks_write {sink sink' : String} (alike : declared.Alike declared')
    (same : marks sink = marks sink') :
    marks (declared.write sink .html) = marks (declared'.write sink' .html) := by
  have empty : declared.segments.isEmpty = declared'.segments.isEmpty := by
    have length := alike.segments.length_eq
    rw [Bool.eq_iff_iff, List.isEmpty_iff_length_eq_zero, List.isEmpty_iff_length_eq_zero, length]
  unfold Attribute.write
  rw [← empty]
  split
  · simp [same, alike.opening, alike.closing]
  · have stages := foldl_advance_alike alike.name alike.opening alike.segments .pending
    generalize declared.segments.foldl _ _ = reached at stages ⊢
    generalize declared'.segments.foldl _ _ = reached' at stages ⊢
    cases stages with
    | dropped | pending => exact same
    | staged staged => simp [same, staged, alike.closing]

end Attribute

end Templating
