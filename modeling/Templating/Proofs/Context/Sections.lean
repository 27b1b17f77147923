import Templating.Proofs.Context.Acts

/-!
Which sections are defined.

A section is defined at a point if one of the acts before it has defined the section and the context
has not been reset since.  That act is the only one, and all requests for the section are answered with
what it gave.
-/

namespace Templating.Context

namespace Act

/-- One of the acts defines a section, and no later one resets the context. -/
def Defines (acts : List Act) (name : String) (producer : Producer) : Prop :=
  ∃ past future, acts = past ++ .define name (.ok producer) :: future ∧ Act.reset ∉ future

variable {acts : List Act} {act : Act} {name : String} {producer : Producer}

theorem defines_cons_iff :
    Defines (act :: acts) name producer ↔
      Defines acts name producer ∨ act = .define name (.ok producer) ∧ Act.reset ∉ acts := by
  constructor
  · rintro ⟨past, future, split, kept⟩
    cases past with
    | nil =>
        cases split
        exact .inr ⟨rfl, kept⟩
    | cons first past =>
        cases split
        exact .inl ⟨past, future, rfl, kept⟩
  · rintro (⟨past, future, rfl, kept⟩ | ⟨rfl, kept⟩)
    · exact ⟨act :: past, future, rfl, kept⟩
    · exact ⟨[], acts, rfl, kept⟩

theorem not_defines_nil : ¬ Defines [] name producer := by
  rintro ⟨past, future, split, _⟩
  simp at split

end Act

open Act

variable {before after : Context} {act : Act} {acts : List Act} {name : String} {producer : Producer}

/-- A section is defined after an act if the act defines it, or if it was defined and is kept. -/
theorem Step.get?_sections_iff (step : Step before act after) :
    after.sections.get? name = some producer ↔
      act = .define name (.ok producer) ∨
        act ≠ .reset ∧ before.sections.get? name = some producer := by
  cases step with
  | @define _ other given _ defines =>
      obtain ⟨undefined, rfl⟩ := defineSection_eq_ok_iff.mp defines
      by_cases same : name = other
      · subst same
        simp [undefined, eq_comm]
      · simp [Fields.get?_insert_of_ne, same, Ne.symm same]
  | pop pops =>
      obtain ⟨_, rfl⟩ := popBody_eq_ok_iff.mp pops
      simp
  | reset => simp [resetChain]
  | push => simp [pushBody]
  | _ => simp

theorem Steps.get?_sections_iff_or (steps : Steps before acts after) :
    after.sections.get? name = some producer ↔
      Defines acts name producer ∨
        Act.reset ∉ acts ∧ before.sections.get? name = some producer := by
  induction steps with
  | nil => simp [not_defines_nil]
  | @cons before act middle acts after step _ ih =>
      have first : middle.sections.get? name = some producer ↔ _ := step.get?_sections_iff
      rw [ih, first, defines_cons_iff, List.mem_cons]
      grind

/-- The sections of a context are those that are defined since it was created or reset. -/
theorem Steps.get?_sections_iff (steps : Steps before acts after) (empty : before.sections = .empty) :
    after.sections.get? name = some producer ↔ Defines acts name producer := by
  rw [steps.get?_sections_iff_or, empty]
  simp

theorem Step.define_of_some {result : Except TemplateError Producer}
    (step : Step before (.define name result) after)
    (defined : before.sections.get? name = some producer) :
    result = .error (.usage (.duplicateSection name)) ∧ after = before := by
  cases step with
  | define defines =>
      obtain ⟨undefined, _⟩ := defineSection_eq_ok_iff.mp defines
      rw [undefined] at defined
      contradiction
  | defineFails fails =>
      obtain ⟨_, rfl⟩ := defineSection_eq_error_iff.mp fails
      exact ⟨rfl, rfl⟩

theorem Step.define_of_none {result : Except TemplateError Producer}
    (step : Step before (.define name result) after)
    (undefined : before.sections.get? name = none) : ∃ producer, result = .ok producer := by
  cases step with
  | define => exact ⟨_, rfl⟩
  | defineFails fails =>
      obtain ⟨defined, _⟩ := defineSection_eq_error_iff.mp fails
      simp [isSectionDefined, Fields.contains, undefined] at defined

theorem Step.render_result {required : Bool} {result : Except TemplateError Producer}
    (step : Step before (.render name required result) after) :
    result = match before.sections.get? name with
      | some producer => .ok producer
      | none => if required then .error (.usage (.missingSection name)) else .ok .empty := by
  cases step with
  | render renders =>
      rw [← renders, renderSection]
      cases before.sections.get? name with
      | some _ => rfl
      | none => cases required <;> rfl

end Templating.Context
