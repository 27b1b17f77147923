import Mathlib.Control.Monad.Basic
import Templating.Proofs.Context.Sections
import Templating.Proofs.Engine.Course

/-!
Sections over the life of a context.

A context is created once and may serve many renders, with operations from outside in between.  At every
point of its history, inside a template or between two renders, the sections are those that have been
defined since the last chain has failed, each as it was defined first.
-/

namespace Templating

open Context (Act Step Steps)
open Context.Act (Defines)

/-- The operations on a context that are open to its owner. -/
def Context.Act.IsPublic : Act → Prop
  | .enter _ | .reset | .includeTemplate .. => False
  | _ => True

/-- All that happens to a context from its creation on. -/
inductive Context.History : List Act → Context → Prop where
  | created (bag : ViewBag) : History [] (.withViewBag bag)
  | operation (history : History past context) (isPublic : act.IsPublic)
      (step : Step context act next) : History (past ++ [act]) next
  | render {engine : Engine} (history : History past context)
      (executes : engine.Executes bound template model context session legs acts rendered) :
      History (past ++ acts) rendered.context

variable {past acts : List Act} {act : Act} {context now next : Context}

theorem Context.History.steps (history : Context.History acts context) :
    ∃ bag, Steps (.withViewBag bag) acts context := by
  induction history with
  | created bag => exact ⟨bag, .nil⟩
  | operation _ _ step ih =>
      obtain ⟨bag, steps⟩ := ih
      exact ⟨bag, steps.append (.single step)⟩
  | render _ executes ih =>
      obtain ⟨bag, steps⟩ := ih
      exact ⟨bag, steps.append executes.steps⟩

/-- What an act that follows on the acts of `past` has to do with the sections. -/
structure Context.WritesOnce (past : List Act) (now : Context) (act : Act) (next : Context) : Prop where
  /-- The sections that are defined are those that have been defined since the last reset. -/
  defined : ∀ name, now.isSectionDefined name = true ↔ ∃ producer, Defines past name producer
  unique : ∀ name producer other, Defines past name producer → Defines past name other →
    producer = other
  /-- A second definition of a name fails and changes nothing. -/
  refuses : ∀ name producer result, Defines past name producer → act = .define name result →
    result = .error (.usage (.duplicateSection name)) ∧ next = now
  accepts : ∀ name result, (∀ producer, ¬ Defines past name producer) → act = .define name result →
    ∃ producer, result = .ok producer
  /-- Whoever asks for a section gets what the first definition gave. -/
  renders : ∀ name producer required result, Defines past name producer →
    act = .render name required result → result = .ok producer
  missing : ∀ name required result, (∀ producer, ¬ Defines past name producer) →
    act = .render name required result →
    result = if required then .error (.usage (.missingSection name)) else .ok .empty
  sought : ∀ name found, act = .seek name found →
    (found = true ↔ ∃ producer, Defines past name producer)
  includes : ∀ name model result, act = .includeTemplate name model result → next = now

theorem Context.isSectionDefined_iff (context : Context) (name : String) :
    context.isSectionDefined name = true ↔ ∃ producer, context.sections.get? name = some producer :=
  Option.isSome_iff_exists

theorem Context.writesOnce_of_step
    (sections : ∀ name producer, now.sections.get? name = some producer ↔ Defines past name producer)
    (step : Step now act next) : Context.WritesOnce past now act next where
  defined name := by simp only [now.isSectionDefined_iff, sections]
  unique name producer other first second := by
    rw [← sections] at first second
    exact Option.some.inj (first.symm.trans second)
  refuses name producer result defines same := by
    subst same
    exact step.define_of_some ((sections _ _).mpr defines)
  accepts name result undefined same := by
    subst same
    refine step.define_of_none (Option.eq_none_iff_forall_ne_some.mpr fun producer found => ?_)
    exact undefined producer ((sections _ _).mp found)
  renders name producer required result defines same := by
    subst same
    rw [step.render_result, (sections _ _).mpr defines]
  missing name required result undefined same := by
    subst same
    have none : now.sections.get? name = none :=
      Option.eq_none_iff_forall_ne_some.mpr fun producer found =>
        undefined producer ((sections _ _).mp found)
    rw [step.render_result, none]
  sought name found same := by
    subst same
    cases step with
    | seek seeks => simp only [← seeks, now.isSectionDefined_iff, sections]
  includes name model result same := by
    subst same
    cases step
    rfl

namespace Engine

variable {engine : Engine} {bound : Nat} {template : Instance} {model : Model} {session : Session Body}
  {legs : List Leg} {rendered : Rendered}

theorem Executes.reset_mem_iff
    (executes : engine.Executes bound template model context session legs acts rendered) :
    Act.reset ∈ acts ↔ legs ≠ [] ∧ ∃ error, rendered.result = .error error := by
  cases executes with
  | refused => simp
  | @ran _ legs ended _ course =>
      obtain ⟨_, first, rest, rfl, _⟩ := course.opens
      have result : ended.finish.result = ended.result := rfl
      rw [List.mem_append, or_iff_right course.reset_not_mem, result, Rendered.ending]
      cases ended.result <;> simp

end Engine

/-- In whatever a context goes through, a section is written once and read as it was written, until a
chain fails. -/
theorem Context.sections_written_once (history : Context.History acts context) :
    (∀ name, context.isSectionDefined name = true ↔ ∃ producer, Defines acts name producer) ∧
    (∃ bag, ∀ past act future, acts = past ++ act :: future →
      ∃ now next, Steps (.withViewBag bag) past now ∧ Step now act next ∧ Steps next future context ∧
        Context.WritesOnce past now act next) ∧
    ∀ (engine : Engine) bound template model start session legs more rendered,
      engine.Executes bound template model start session legs more rendered →
      (Act.reset ∈ more ↔ legs ≠ [] ∧ ∃ error, rendered.result = .error error) := by
  obtain ⟨bag, steps⟩ := history.steps
  refine ⟨fun name => ?_, ⟨bag, fun past act future split => ?_⟩,
    fun _ _ _ _ _ _ _ _ _ => Engine.Executes.reset_mem_iff⟩
  · simp only [context.isSectionDefined_iff, steps.get?_sections_iff rfl]
  · subst split
    obtain ⟨now, before, rest⟩ := Context.steps_append_iff.mp steps
    obtain ⟨next, step, after⟩ := Context.steps_cons_iff.mp rest
    exact ⟨now, next, before, step, after,
      Context.writesOnce_of_step (fun _ _ => before.get?_sections_iff rfl) step⟩

/-- A frame around a page that defines its title twice, and that breaks off a section after it has
defined another one in it.  The page includes a card with a section of its own. -/
def titled : Engine :=
  .ofBodies
    [("frame", .sequence
        [.call (.renderSection "title" true) .place, .call (.renderSection "title" false) .place,
          .call (.renderSection "side" false) .place, .call (.renderSection "note" true) .place]),
      ("card", .ask (.defineSection "card" (.rendered "card")))]

def titledPage : Instance :=
  .ofBody "page" (.sequence
    [.ask (.setLayout "frame"), .ask (.defineSection "title" (.rendered "first ")),
      .ask (.defineSection "title" (.rendered "second ")),
      .captureSection "side"
        (.sequence [.ask (.defineSection "note" (.rendered "note")),
          .call (.renderSection "absent" true) .place]) fun _ => .skip,
      .includeTemplate "card" .none fun _ => .skip])

def footed : Context :=
  { (Context.withViewBag .empty) with
    sections := (Fields.empty : Fields Producer).insert "foot" (.rendered "foot") }

/-- The first title stays, the section that was broken off is not defined, and the one that was defined
inside it is. -/
theorem titledPage_writes_once :
    ∃ rendered acts, titled.render 2 titledPage .none footed titled.start = some rendered ∧
      rendered.result = .ok "first first note" ∧
      Context.History ([.define "foot" (.ok (.rendered "foot"))] ++ acts) rendered.context ∧
      (∃ producer, Defines ([.define "foot" (.ok (.rendered "foot"))] ++ acts) "note" producer) ∧
      (¬ ∃ producer, Defines ([.define "foot" (.ok (.rendered "foot"))] ++ acts) "side" producer) ∧
      (¬ ∃ producer, Defines ([.define "foot" (.ok (.rendered "foot"))] ++ acts) "card" producer) ∧
      ∃ producer, Defines ([.define "foot" (.ok (.rendered "foot"))] ++ acts) "foot" producer := by
  have evaluated : ((titled.render 2 titledPage .none footed titled.start).any fun rendered =>
      decide (rendered.result = .ok "first first note" ∧
        rendered.context.isSectionDefined "note" = true ∧
        ¬ rendered.context.isSectionDefined "side" = true ∧
        ¬ rendered.context.isSectionDefined "card" = true ∧
        rendered.context.isSectionDefined "foot" = true)) = true := by decide +kernel
  obtain ⟨rendered, renders, evaluated⟩ := (Option.any_eq_true _ _).mp evaluated
  obtain ⟨result, note, side, card, foot⟩ := of_decide_eq_true evaluated
  obtain ⟨legs, acts, executes⟩ := Engine.exists_executes renders
  have start : Context.History [] (.withViewBag .empty) := .created .empty
  have defines : Step (.withViewBag .empty) (.define "foot" (.ok (.rendered "foot"))) footed :=
    .define rfl
  have history : Context.History ([.define "foot" (.ok (.rendered "foot"))] ++ acts)
      rendered.context := .render (.operation start trivial defines) executes
  obtain ⟨defined, _⟩ := Context.sections_written_once history
  rw [defined] at note side card foot
  exact ⟨rendered, acts, renders, result, history, note, side, card, foot⟩

end Templating
