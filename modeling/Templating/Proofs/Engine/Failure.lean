import Mathlib.Control.Monad.Basic
import Templating.Proofs.Engine.Course

/-!
What a render leaves in its context.

A chain ends idle.  One that has failed has dropped its captured bodies and its sections, wherever it has
failed, so that a later render in its context starts as in a new one with the view bag that is left.
-/

namespace Templating

open Context (Act)

theorem Leg.foldl_history_onBag (leg : Leg) (bag : ViewBag) :
    leg.history.foldl (fun bag act => act.onBag bag) bag =
      leg.acts.foldl (fun bag act => act.onBag bag) bag := by
  unfold Leg.history
  split <;> simp [Act.onBag]

theorem foldl_histories_onBag (legs : List Leg) (bag : ViewBag) :
    (legs.flatMap Leg.history).foldl (fun bag act => act.onBag bag) bag =
      (legs.flatMap Leg.acts).foldl (fun bag act => act.onBag bag) bag := by
  induction legs generalizing bag with
  | nil => rfl
  | cons leg rest ih => simp only [List.flatMap_cons, List.foldl_append, leg.foldl_history_onBag, ih]

theorem Rendered.finish_of_failed {rendered : Rendered} {error : TemplateError}
    (fails : rendered.result = .error error) :
    rendered.finish.context = .withViewBag rendered.context.viewBag := by
  simp only [Rendered.finish, fails]
  rfl

theorem Rendered.state_finish (rendered : Rendered) : rendered.finish.context.state = .idle :=
  rfl

namespace Engine

variable {engine : Engine} {bound : Nat} {template root : Instance} {model : Model}
  {context : Context} {session : Session Body} {legs : List Leg} {acts : List Act}
  {rendered : Rendered}

theorem Course.viewBag (course : engine.Course bound template context session legs rendered) :
    ∃ last, legs.getLast? = some last ∧ rendered.context.viewBag = last.closing.context.viewBag := by
  induction course with
  | failed | ended | astray => exact ⟨_, rfl, rfl⟩
  | linked _ _ _ _ _ ih =>
      obtain ⟨last, isLast, same⟩ := ih
      exact ⟨last, by rw [List.getLast?_cons, isLast]; rfl, same⟩

theorem Executes.viewBag
    (executes : engine.Executes bound template model context session legs acts rendered)
    {error : TemplateError} (fails : rendered.result = .error error)
    (binds : template.bindModel model = .ok root) :
    (∃ last, legs.getLast? = some last ∧
      rendered.context = .withViewBag last.closing.context.viewBag) ∧
    rendered.context.viewBag =
      (legs.flatMap Leg.acts).foldl (fun bag act => act.onBag bag) context.viewBag := by
  cases executes with
  | refused refuses => cases refuses.symm.trans binds
  | @ran _ _ ended _ course =>
      have fails : ended.result = .error error := fails
      obtain ⟨last, isLast, same⟩ := course.viewBag
      rw [Rendered.finish_of_failed fails, ← foldl_histories_onBag]
      exact ⟨⟨last, isLast, congrArg Context.withViewBag same⟩, course.steps.viewBag⟩

/-- A render that is refused for its model leaves the context alone; one that fails later leaves nothing
but the view bag, so that whatever is rendered in its context next comes out as in a new one. -/
theorem failure_leaves_only_viewBag :
    (∀ error, template.bindModel model = .error error →
      engine.render bound template model context session =
        some ⟨.error (.usage error), context, session⟩) ∧
    ∀ root rendered, template.bindModel model = .ok root →
      engine.render bound template model context session = some rendered →
      rendered.context.state = .idle ∧
      ∀ error, rendered.result = .error error →
        (∃ legs acts, engine.Executes bound template model context session legs acts rendered) ∧
        (∀ legs acts, engine.Executes bound template model context session legs acts rendered →
          (∃ last, legs.getLast? = some last ∧
            rendered.context = .withViewBag last.closing.context.viewBag) ∧
          rendered.context.viewBag =
            (legs.flatMap Leg.acts).foldl (fun bag act => act.onBag bag) context.viewBag) ∧
        rendered.context.pendingBodies = 0 ∧
        (∀ name, rendered.context.isSectionDefined name = false) ∧
        ∀ (later : Engine) bound template model session,
          later.render bound template model rendered.context session =
            later.render bound template model (.withViewBag rendered.context.viewBag) session := by
  refine ⟨fun error refuses => Executes.render (.refused refuses), fun root rendered binds renders => ?_⟩
  obtain ⟨legs, acts, executes⟩ := exists_executes renders
  refine ⟨?idle, fun error fails => ?cleared⟩
  case idle =>
    cases executes with
    | refused refuses => cases refuses.symm.trans binds
    | ran => exact Rendered.state_finish _
  case cleared =>
    obtain ⟨⟨last, _, cleared⟩, _⟩ := executes.viewBag fails binds
    refine ⟨⟨legs, acts, executes⟩, fun _ _ others => others.viewBag fails binds, ?_, ?_, ?_⟩
    · rw [cleared]
      rfl
    · intro name
      rw [cleared]
      rfl
    · intro later bound template model session
      rw [cleared]
      rfl

/-- A frame that needs a section which its page does not define. -/
def sided : Engine :=
  .ofBodies
    [("frame", .sequence
      [.ask (.setInBag "step" (.text "frame")), .call (.renderSection "side" true) .place])]

def sidelessPage : Instance :=
  .ofBody "page" (.sequence
    [.ask (.setLayout "frame"), .ask (.setInBag "title" (.text "page")),
      .ask (.defineSection "head" (.rendered "<title/>")), .text "text"])

def numbersPage : Instance :=
  let content := { sidelessPage.artifact.content with modelType := ⟨"i64"⟩ }
  { sidelessPage with artifact := { sidelessPage.artifact with content } }

def usedContext : Context :=
  { viewBag := .ofList [("title", .text "old")]
    bodies := [.rendered "left"]
    sections := .ofList [("foot", .rendered "<hr/>")] }

/-- A layout fails after its page has defined a section and left its body. -/
theorem failedFrame_leaves_only_viewBag :
    sided.render 2 numbersPage (.dynamic .empty) usedContext sided.start =
      some ⟨.error (.usage (.modelTypeMismatch "i64" "dynamic")), usedContext, sided.start⟩ ∧
    ∃ rendered, sided.render 2 sidelessPage .none usedContext sided.start = some rendered ∧
      rendered.result = .error (.usage (.missingSection "side")) ∧
      rendered.context.state = .idle ∧ rendered.context.pendingBodies = 0 ∧
      rendered.context.isSectionDefined "head" = false ∧
      rendered.context.isSectionDefined "foot" = false ∧
      rendered.context.viewBag.getText? "title" = some "page" ∧
      rendered.context.viewBag.getText? "step" = some "frame" ∧
      sided.render 2 sidelessPage .none rendered.context rendered.session =
        sided.render 2 sidelessPage .none (.withViewBag rendered.context.viewBag) rendered.session := by
  have refuses : numbersPage.bindModel (.dynamic .empty) =
      .error (.modelTypeMismatch "i64" "dynamic") := rfl
  have binds : sidelessPage.bindModel .none = .ok sidelessPage := rfl
  have evaluated : ((sided.render 2 sidelessPage .none usedContext sided.start).any fun rendered =>
      decide (rendered.result = .error (.usage (.missingSection "side")) ∧
        rendered.context.viewBag.getText? "title" = some "page" ∧
        rendered.context.viewBag.getText? "step" = some "frame")) = true := by decide +kernel
  obtain ⟨rendered, renders, evaluated⟩ := (Option.any_eq_true _ _).mp evaluated
  obtain ⟨failed, title, step⟩ := of_decide_eq_true evaluated
  obtain ⟨idle, clears⟩ := failure_leaves_only_viewBag.2 sidelessPage rendered binds renders
  obtain ⟨_, _, pending, sections, later⟩ := clears _ failed
  exact ⟨failure_leaves_only_viewBag.1 _ refuses, rendered, renders, failed, idle, pending,
    sections _, sections _, title, step, later _ _ _ _ _⟩

end Engine
end Templating
