import Templating.Page

/-!
The text of an attribute, told from all of its segments at once.

`Attribute.format` first asks whether some segment is false, and then which segments are left when the
null ones are taken out.  `Attribute.write` takes the segments in one after the other and comes to the
same, with nothing but that text behind what its sink has held.
-/

namespace Templating

namespace Segment

/-- A false segment drops its attribute. -/
def isFalse (segment : Segment) : Bool :=
  match segment.value.value with
  | .bool false => true
  | _ => false

/-- The text of a value on the path of a segment. -/
def written (segment : Segment) (encoding : Encoding) (value : Value) : String :=
  if segment.literal then value.display else value.markup encoding

/-- What a segment contributes: its text behind the text that leads it.  A null segment contributes
nothing, and a true one the name of the attribute. -/
def piece? (name : String) (encoding : Encoding) (segment : Segment) : Option (String × String) :=
  match segment.value.value with
  | .null => none
  | .bool true => some (segment.lead.value, segment.written encoding (.text name))
  | value => some (segment.lead.value, segment.written encoding value)

end Segment

namespace Attribute

def pieces (declared : Attribute) (encoding : Encoding) (segments : List Segment) :
    List (String × String) :=
  segments.filterMap (Segment.piece? declared.name encoding)

/-- Pieces that have others before them. -/
def spread (pieces : List (String × String)) : String :=
  String.join (pieces.map fun piece => piece.1 ++ piece.2)

/-- The text of an attribute.  The first of its pieces is led by the text that opens the attribute. -/
def format (declared : Attribute) (encoding : Encoding) : String :=
  if declared.segments.isEmpty then declared.opening.value ++ declared.closing.value
  else if declared.segments.any Segment.isFalse then ""
  else
    match declared.pieces encoding declared.segments with
    | [] => ""
    | first :: rest => declared.opening.value ++ first.2 ++ spread rest ++ declared.closing.value

variable {declared : Attribute} {segment : Segment} {segments : List Segment} {encoding : Encoding}
  {progress : Progress}

@[simp]
theorem spread_nil : spread [] = "" := rfl

@[simp]
theorem spread_cons (piece : String × String) (rest : List (String × String)) :
    spread (piece :: rest) = piece.1 ++ piece.2 ++ spread rest := by
  simp [spread]

/-! ## One segment -/

theorem shown?_of_ne (present : segment.value.value ≠ .null)
    (other : segment.value.value ≠ .bool true) :
    declared.shown? segment = some segment.value.value := by
  unfold shown?
  split
  · contradiction
  · contradiction
  · rfl

theorem advance_of_false (falsy : segment.value.value = .bool false) :
    declared.advance encoding progress segment = .dropped := by
  cases progress <;> simp [advance, falsy]

theorem advance_pending (kept : segment.value.value ≠ .bool false) :
    declared.advance encoding .pending segment =
      match declared.shown? segment with
      | none => .pending
      | some value => .staged (append segment encoding "" declared.opening.value value) := by
  unfold advance
  split
  · contradiction
  · contradiction
  · rfl

theorem advance_staged (kept : segment.value.value ≠ .bool false) (text : String) :
    declared.advance encoding (.staged text) segment =
      match declared.shown? segment with
      | none => .staged text
      | some value => .staged (append segment encoding text segment.lead.value value) := by
  unfold advance
  split
  · contradiction
  · contradiction
  · rfl

theorem isFalse_iff : segment.isFalse = true ↔ segment.value.value = .bool false := by
  unfold Segment.isFalse
  split
  · next falsy => simp [falsy]
  · next other => simpa using other

theorem piece?_eq_shown? (declared : Attribute) (segment : Segment) (encoding : Encoding) :
    segment.piece? declared.name encoding =
      (declared.shown? segment).map fun value =>
        (segment.lead.value, segment.written encoding value) := by
  unfold Segment.piece? shown?
  cases segment.value.value with
  | bool flag => cases flag <;> rfl
  | _ => rfl

theorem append_eq (segment : Segment) (encoding : Encoding) (before lead : String) (value : Value) :
    append segment encoding before lead value = before ++ lead ++ segment.written encoding value := by
  unfold append Segment.written
  split
  · exact value.writeLiteral_eq_append _
  · rfl

/-! ## All segments -/

theorem foldl_dropped (segments : List Segment) :
    segments.foldl (declared.advance encoding) .dropped = .dropped := by
  induction segments with
  | nil => rfl
  | cons segment rest ih => exact ih

theorem foldl_of_false (falsy : segments.any Segment.isFalse = true) (progress : Progress) :
    segments.foldl (declared.advance encoding) progress = .dropped := by
  induction segments generalizing progress with
  | nil => contradiction
  | cons segment rest ih =>
      rw [List.foldl_cons]
      by_cases first : segment.value.value = .bool false
      · rw [advance_of_false first, foldl_dropped]
      · rw [List.any_cons, Bool.or_eq_true, isFalse_iff, or_iff_right first] at falsy
        exact ih falsy _

theorem kept_of_any_cons (kept : (segment :: segments).any Segment.isFalse = false) :
    segment.value.value ≠ .bool false ∧ segments.any Segment.isFalse = false := by
  rw [List.any_cons, Bool.or_eq_false_iff] at kept
  refine ⟨fun falsy => ?_, kept.2⟩
  rw [isFalse_iff.mpr falsy] at kept
  exact absurd kept.1 (by decide)

theorem pieces_cons (declared : Attribute) (encoding : Encoding) (segment : Segment)
    (rest : List Segment) :
    declared.pieces encoding (segment :: rest) =
      match declared.shown? segment with
      | none => declared.pieces encoding rest
      | some value =>
          (segment.lead.value, segment.written encoding value) :: declared.pieces encoding rest := by
  unfold pieces
  rw [List.filterMap_cons, piece?_eq_shown?]
  cases declared.shown? segment <;> rfl

/-- Behind a first piece each piece is led by its own text. -/
theorem foldl_staged (kept : segments.any Segment.isFalse = false) (text : String) :
    segments.foldl (declared.advance encoding) (.staged text) =
      .staged (text ++ spread (declared.pieces encoding segments)) := by
  induction segments generalizing text with
  | nil => simp [pieces]
  | cons segment rest ih =>
      obtain ⟨first, others⟩ := kept_of_any_cons kept
      rw [List.foldl_cons, advance_staged first, pieces_cons]
      cases declared.shown? segment with
      | none => exact ih others text
      | some value =>
          simp only
          rw [ih others, append_eq, spread_cons]
          simp only [String.append_assoc]

/-- Null segments pass until there is a first piece, which opens the attribute. -/
theorem foldl_pending (kept : segments.any Segment.isFalse = false) :
    segments.foldl (declared.advance encoding) .pending =
      match declared.pieces encoding segments with
      | [] => .pending
      | first :: rest => .staged (declared.opening.value ++ first.2 ++ spread rest) := by
  induction segments with
  | nil => rfl
  | cons segment rest ih =>
      obtain ⟨first, others⟩ := kept_of_any_cons kept
      rw [List.foldl_cons, advance_pending first, pieces_cons]
      cases declared.shown? segment with
      | none => exact ih others
      | some value =>
          simp only
          rw [foldl_staged others, append_eq, String.empty_append]

theorem write_eq_append (sink : String) (declared : Attribute) (encoding : Encoding) :
    declared.write sink encoding = sink ++ declared.format encoding := by
  unfold write format
  split
  · exact String.append_assoc
  · cases kept : declared.segments.any Segment.isFalse with
    | true => simp [foldl_of_false kept]
    | false =>
        rw [foldl_pending kept]
        cases declared.pieces encoding declared.segments with
        | nil => simp
        | cons first rest => simp [String.append_assoc]

/-- Whatever a sink has held, an attribute is written behind it, and a page that writes an attribute
changes in nothing but its output. -/
theorem written_as_format (declared : Attribute) :
    (∀ sink encoding, declared.write sink encoding = sink ++ declared.format encoding) ∧
    ∀ (engine : Engine) (template : Instance) (page : Page),
      page.answer engine template (.writeAttribute declared) =
        some ((), { page with output := page.output ++ declared.format engine.config.encoding }) := by
  refine ⟨fun sink encoding => declared.write_eq_append sink encoding, fun engine template page => ?_⟩
  have written := declared.write_eq_append page.output engine.config.encoding
  exact congrArg (fun output => some ((), { page with output })) written

/-- The null segment goes with the text that leads it, and the next one is led by the text that opens the
attribute. -/
example :
    format
        { name := "class"
          opening := ⟨" class='", 0⟩
          closing := ⟨"'", 0⟩
          segments :=
            [{ lead := ⟨"-", 0⟩, value := ⟨.null, 0⟩ },
              { lead := ⟨"-", 0⟩, value := ⟨.text "<", 0⟩ },
              { lead := ⟨" ", 0⟩, value := ⟨.bool true, 0⟩, literal := true }] } .html =
      " class='&lt; class'" := by decide +kernel

end Attribute

end Templating
