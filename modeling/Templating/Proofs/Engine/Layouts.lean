import Templating.Proofs.Context.Bodies
import Templating.Proofs.Engine.Course

/-!
Layouts and the bodies that they wrap.

Each leg of a chain but the last pushes its output, and a layout finds the output of the template that it
wraps on top of whatever that template has left.  Templates may take any number of bodies, or none, and
take them inside sections; what they include runs elsewhere and takes none of theirs.
-/

namespace Templating

open Context (Act Step Steps)
open Context.Act (isPush isHandout popped? LastInFirstOut)

/-- The outer leg starts with the output of the inner one on top of the bodies that the inner one has
left, and is handed that output first. -/
structure Leg.WrappedBy (inner outer : Leg) : Prop where
  bodies : outer.opening.context.bodies =
    .rendered inner.closing.output :: inner.closing.context.bodies
  first : ∀ result, (outer.acts.filterMap popped?).head? = some result →
    result = .ok (.rendered inner.closing.output)

theorem Leg.countP_history_isHandout (leg : Leg) :
    leg.history.countP isHandout = leg.acts.countP isHandout := by
  unfold Leg.history
  split <;> simp [isHandout]

theorem countP_histories_isHandout (legs : List Leg) :
    (legs.flatMap Leg.history).countP isHandout = (legs.flatMap Leg.acts).countP isHandout := by
  simp only [List.countP_flatMap, Function.comp_def, Leg.countP_history_isHandout]

namespace Engine

variable {engine : Engine} {bound : Nat} {template : Instance} {model : Model} {context : Context}
  {session : Session Body} {leg : Leg} {legs : List Leg} {acts : List Act} {rendered : Rendered}

theorem IsLeg.settled (first : engine.IsLeg bound template context session leg) :
    ∀ act ∈ leg.acts, act.isPush = false ∧ act ≠ .reset := by
  intro act member
  have ofBody := first.trace.ofBody act member
  cases act with
  | push | enter | reset => contradiction
  | _ => exact ⟨rfl, Act.noConfusion⟩

theorem IsLeg.wraps {inner : Leg} {after : Session Body}
    (outer : engine.IsLeg bound template inner.closing.chained after leg) : inner.WrappedBy leg := by
  have bodies : leg.opening.context.bodies =
      .rendered inner.closing.output :: inner.closing.context.bodies := by
    rw [outer.opening]
    rfl
  exact ⟨bodies, fun _ first => outer.trace.steps.first_popped bodies outer.settled first⟩

theorem Course.wraps (course : engine.Course bound template context session legs rendered) :
    legs.IsChain Leg.WrappedBy := by
  induction course with
  | failed | ended | astray => exact .singleton _
  | linked _ _ _ _ rest ih =>
      obtain ⟨bound, outer, others, rfl, isLeg⟩ := rest.opens
      exact .cons_cons isLeg.wraps ih

theorem Course.output (course : engine.Course bound template context session legs rendered)
    {text : String} (succeeds : rendered.result = .ok text) :
    ∃ last, legs.getLast? = some last ∧ last.closing.output = text := by
  induction course with
  | failed | astray => contradiction
  | ended =>
      cases succeeds
      exact ⟨_, rfl, rfl⟩
  | linked _ _ _ _ _ ih =>
      obtain ⟨last, isLast, output⟩ := ih succeeds
      exact ⟨last, by rw [List.getLast?_cons, isLast]; rfl, output⟩

theorem IsLeg.countP_isPush (first : engine.IsLeg bound template context session leg) :
    leg.history.countP isPush = if leg.goesOn then 1 else 0 := by
  have none : leg.acts.countP isPush = 0 := by
    rw [List.countP_eq_zero]
    intro act member
    simp [(first.settled act member).1]
  unfold Leg.history
  split <;> simp [none, isPush]

theorem Course.countP_isPush (course : engine.Course bound template context session legs rendered)
    {text : String} (succeeds : rendered.result = .ok text) :
    (legs.flatMap Leg.history).countP isPush = legs.length - 1 := by
  induction course with
  | failed | astray => contradiction
  | ended first _ ends => simp [first.countP_isPush, Leg.goesOn, ends]
  | linked first done names _ rest ih =>
      obtain ⟨_, _, _, rfl, _⟩ := rest.opens
      rw [List.flatMap_cons, List.countP_append, ih succeeds, first.countP_isPush,
        Leg.goesOn_of_chained done names, if_pos rfl]
      simp only [List.length_cons]
      omega

/-- How the legs of a render use the bodies of its context. -/
structure Nests (context : Context) (legs : List Leg) (acts : List Act) (rendered : Rendered) :
    Prop where
  /-- The first template starts with the bodies that the context had. -/
  opens : ∀ first, legs.head? = some first → first.opening.context.bodies = context.bodies
  /-- Each layout starts with the output of what it wraps on top of the bodies. -/
  wraps : legs.IsChain Leg.WrappedBy
  /-- No body is handed out twice, none before one that was captured later, and a request fails exactly
  if all bodies have been handed out, those that the context had included. -/
  handsOut : ∃ origin,
    LastInFirstOut (context.bodies.reverse.map .push ++ legs.flatMap Leg.history) origin
  output : ∀ text, rendered.result = .ok text →
    ∃ last, legs.getLast? = some last ∧ last.closing.output = text
  pending : ∀ text, rendered.result = .ok text →
    rendered.context.pendingBodies + (legs.flatMap Leg.acts).countP isHandout =
      context.pendingBodies + (legs.length - 1)
  /-- What is included on the way leaves the context alone. -/
  includes : ∀ past name model result future,
    acts = past ++ .includeTemplate name model result :: future →
    ∃ now, Steps context past now ∧ Steps now future rendered.context

theorem Course.pending (course : engine.Course bound template context session legs rendered)
    {text : String} (succeeds : rendered.result = .ok text) :
    rendered.context.pendingBodies + (legs.flatMap Leg.acts).countP isHandout =
      context.pendingBodies + (legs.length - 1) := by
  rw [← course.countP_isPush succeeds, ← countP_histories_isHandout]
  exact course.steps.pendingBodies_add course.reset_not_mem

theorem finish_of_ok {text : String} (succeeds : rendered.finish.result = .ok text) :
    rendered.result = .ok text ∧
      rendered.finish.context = { rendered.context with state := .idle } := by
  have same : rendered.result = .ok text := succeeds
  exact ⟨same, by simp only [Rendered.finish, same]⟩

theorem Executes.nests
    (executes : engine.Executes bound template model context session legs acts rendered) :
    Nests context legs acts rendered where
  opens := by
    cases executes with
    | refused => exact fun _ none => nomatch none
    | ran _ course =>
        obtain ⟨_, first, others, rfl, isLeg⟩ := course.opens
        rintro _ ⟨⟩
        rw [isLeg.opening]
        rfl
  wraps := by
    cases executes with
    | refused => exact .nil
    | ran _ course => exact course.wraps
  handsOut := by
    cases executes with
    | refused => exact Steps.nil.lastInFirstOut_of_bodies (by simp)
    | ran _ course => exact course.steps.lastInFirstOut_of_bodies course.reset_not_mem
  output text succeeds := by
    cases executes with
    | refused => contradiction
    | ran _ course => exact course.output (finish_of_ok succeeds).1
  pending text succeeds := by
    cases executes with
    | refused => contradiction
    | ran _ course =>
        obtain ⟨succeeds, same⟩ := finish_of_ok succeeds
        rw [same]
        exact course.pending succeeds
  includes past name model result future split := by
    subst split
    obtain ⟨now, before, rest⟩ := Context.steps_append_iff.mp executes.steps
    obtain ⟨_, ⟨⟩, after⟩ := Context.steps_cons_iff.mp rest
    exact ⟨_, before, after⟩

/-- Whatever the bodies of a chain do, its captured bodies are handed out last in, first out, each to
at most one request, and the output of the last template is the result. -/
theorem renders_nest (renders : engine.render bound template model context session = some rendered) :
    (∃ legs acts, engine.Executes bound template model context session legs acts rendered) ∧
      ∀ legs acts, engine.Executes bound template model context session legs acts rendered →
        Nests context legs acts rendered :=
  ⟨exists_executes renders, fun _ _ => Executes.nests⟩

/-- A page inside an aside inside a frame.  The aside leaves its body to the frame and includes a note that
has a layout of its own; the frame takes bodies until there are none. -/
def nested : Engine :=
  let body : Body := .call .renderBody .place
  .ofBodies
    [("aside", .sequence
        [.ask (.setLayout "frame"), .includeTemplate "note" .none .place, .text "aside "]),
      ("note", .sequence [.ask (.setLayout "box"), .text "note"]),
      ("box", .sequence [.text "[", body, .text "] "]),
      ("frame", .sequence [body, body, body, body.recover fun _ => .text "end"])]

def nestedPage : Instance :=
  .ofBody "page" (.sequence [.ask (.setLayout "aside"), .text "page "])

def leftContext : Context :=
  (Context.withViewBag .empty).pushBody (.rendered "left ")

/-- A frame takes the bodies that its inner layout has left, and then the one that was there before. -/
theorem frame_takes_left_bodies :
    ∃ rendered, nested.render 4 nestedPage .none leftContext nested.start = some rendered ∧
      rendered.result = .ok "[note] aside page left end" ∧
      (∃ legs acts,
        nested.Executes 4 nestedPage .none leftContext nested.start legs acts rendered) ∧
      ∀ legs acts, nested.Executes 4 nestedPage .none leftContext nested.start legs acts rendered →
        Nests leftContext legs acts rendered := by
  have evaluated : ((nested.render 4 nestedPage .none leftContext nested.start).any fun rendered =>
      decide (rendered.result = .ok "[note] aside page left end")) = true := by decide +kernel
  obtain ⟨rendered, renders, result⟩ := (Option.any_eq_true _ _).mp evaluated
  obtain ⟨executes, nests⟩ := renders_nest renders
  exact ⟨rendered, renders, of_decide_eq_true result, executes, nests⟩

end Engine
end Templating
