import Templating.Pipeline.Static
import Templating.Proofs.Engine.Link
import Templating.Proofs.Engine.Trace

/-!
The course of a render.

A render goes through one leg for each template of its chain: the body of the template runs on a page of
its own, and what it leaves goes on into the next leg.  The acts of all legs, and those that end the
chain, are what the render does to its context.
-/

namespace Templating

open Context (Act Step Steps)

/-- The run of the body of one template of a chain. -/
structure Leg where
  template : Instance
  opening : Page
  acts : List Act
  result : Except TemplateError Unit
  closing : Page

/-- A leg that has left its output to a layout. -/
def Leg.goesOn (leg : Leg) : Bool :=
  leg.result.isOk && leg.closing.layout.isSome

/-- What a leg does to the context, from its template's turn to the capture of its output. -/
def Leg.history (leg : Leg) : List Act :=
  .enter .executing :: leg.acts ++
    if leg.goesOn then [.enter .layoutChaining, .push (.rendered leg.closing.output)] else []

/-- What the end of a chain does to the context. -/
def Rendered.ending (rendered : Rendered) : List Act :=
  match rendered.result with
  | .ok _ => [.enter .idle]
  | .error _ => [.reset, .enter .idle]

namespace Engine

/-- A leg of a chain that may still go `bound` layouts deep. -/
structure IsLeg (engine : Engine) (bound : Nat) (template : Instance) (context : Context)
    (session : Session Body) (leg : Leg) : Prop where
  runs : leg.template = template
  opening : leg.opening = Page.start template { context with state := .executing } session
  trace : template.body.Trace engine template (engine.runNamed (engine.chain bound)) leg.opening
    leg.acts leg.result leg.closing

/-- The legs that a chain goes through on the way to its result. -/
inductive Course (engine : Engine) :
    Nat → Instance → Context → Session Body → List Leg → Rendered → Prop where
  | failed (first : engine.IsLeg bound template context session leg)
      (fails : leg.result = .error error) :
      Course engine (bound + 1) template context session [leg]
        ⟨.error error, leg.closing.context, leg.closing.session⟩
  | ended (first : engine.IsLeg bound template context session leg)
      (succeeds : leg.result = .ok ()) (ends : leg.closing.layout = none) :
      Course engine (bound + 1) template context session [leg]
        ⟨.ok leg.closing.output, leg.closing.context, leg.closing.session⟩
  | astray (first : engine.IsLeg bound template context session leg)
      (succeeds : leg.result = .ok ()) (names : leg.closing.layout = some layout)
      (looks : engine.layoutOf template layout
        (leg.closing.session.record (.layoutChained template.name layout)) =
          some (.error error, after)) :
      Course engine (bound + 1) template context session [leg]
        ⟨.error error, leg.closing.chained, after⟩
  | linked (first : engine.IsLeg bound template context session leg)
      (succeeds : leg.result = .ok ()) (names : leg.closing.layout = some layout)
      (looks : engine.layoutOf template layout
        (leg.closing.session.record (.layoutChained template.name layout)) =
          some (.ok next, after))
      (rest : Course engine bound next leg.closing.chained after legs rendered) :
      Course engine (bound + 1) template context session (leg :: legs) rendered

variable {engine : Engine} {bound : Nat} {template : Instance} {model : Model} {context : Context}
  {session : Session Body} {leg : Leg} {legs : List Leg} {acts : List Act} {rendered : Rendered}

theorem IsLeg.runBody (first : engine.IsLeg bound template context session leg) :
    engine.runBody bound template context session = some (leg.result, leg.closing) := by
  have ran := first.trace.run
  rw [first.opening] at ran
  exact ran

theorem exists_isLeg {result : Except TemplateError Unit} {page : Page}
    (runs : engine.runBody bound template context session = some (result, page)) :
    ∃ leg, engine.IsLeg bound template context session leg ∧ leg.result = result ∧
      leg.closing = page := by
  obtain ⟨acts, trace⟩ := Body.run_eq_some_iff.mp runs
  exact ⟨⟨template, _, acts, result, page⟩, ⟨rfl, rfl, trace⟩, rfl, rfl⟩

theorem Course.chain (course : engine.Course bound template context session legs rendered) :
    engine.chain bound template context session = some rendered := by
  induction course with
  | failed first fails => exact chain_succ_eq_some_iff.mpr (.failed (fails ▸ first.runBody))
  | ended first succeeds ends =>
      exact chain_succ_eq_some_iff.mpr (.ended (succeeds ▸ first.runBody) ends)
  | astray first succeeds names looks =>
      exact chain_succ_eq_some_iff.mpr (.astray (succeeds ▸ first.runBody) names looks)
  | linked first succeeds names looks _ ih =>
      exact chain_succ_eq_some_iff.mpr (.linked (succeeds ▸ first.runBody) names looks ih)

theorem exists_course (engine : Engine)
    (runs : engine.chain bound template context session = some rendered) :
    ∃ legs, engine.Course bound template context session legs rendered := by
  induction bound generalizing template context session rendered with
  | zero => contradiction
  | succ bound ih =>
      cases chain_succ_eq_some_iff.mp runs with
      | failed ran =>
          obtain ⟨leg, first, fails, rfl⟩ := exists_isLeg ran
          exact ⟨_, .failed first fails⟩
      | ended ran ends =>
          obtain ⟨leg, first, succeeds, rfl⟩ := exists_isLeg ran
          exact ⟨_, .ended first succeeds ends⟩
      | astray ran names looks =>
          obtain ⟨leg, first, succeeds, rfl⟩ := exists_isLeg ran
          exact ⟨_, .astray first succeeds names looks⟩
      | linked ran names looks goes =>
          obtain ⟨leg, first, succeeds, rfl⟩ := exists_isLeg ran
          obtain ⟨legs, rest⟩ := ih goes
          exact ⟨_, .linked first succeeds names looks rest⟩

/-- The renders of a template, with the legs that they go through and the acts on the context. -/
inductive Executes (engine : Engine) (bound : Nat) (template : Instance) (model : Model)
    (context : Context) (session : Session Body) : List Leg → List Act → Rendered → Prop where
  | refused (binds : template.bindModel model = .error error) :
      Executes engine bound template model context session [] []
        ⟨.error (.usage error), context, session⟩
  | ran {root : Instance} {legs : List Leg} {ended : Rendered}
      (binds : template.bindModel model = .ok root)
      (course : engine.Course bound root context session legs ended) :
      Executes engine bound template model context session legs
        (legs.flatMap Leg.history ++ ended.ending) ended.finish

theorem Executes.render
    (executes : engine.Executes bound template model context session legs acts rendered) :
    engine.render bound template model context session = some rendered := by
  cases executes with
  | refused binds => simp only [Engine.render, runInstance, binds]
  | ran binds course =>
      simp only [Engine.render, runInstance, binds, course.chain, Option.map_some]

theorem exists_executes
    (renders : engine.render bound template model context session = some rendered) :
    ∃ legs acts, engine.Executes bound template model context session legs acts rendered := by
  simp only [Engine.render, runInstance] at renders
  split at renders
  · next binds =>
      cases renders
      exact ⟨_, _, .refused binds⟩
  · next root binds =>
      obtain ⟨ended, ran, rfl⟩ := Option.map_eq_some_iff.mp renders
      obtain ⟨legs, course⟩ := engine.exists_course ran
      exact ⟨_, _, .ran binds course⟩

/-! ## The acts of a course -/

theorem Course.opens (course : engine.Course bound template context session legs rendered) :
    ∃ bound first rest, legs = first :: rest ∧
      engine.IsLeg bound template context session first := by
  cases course with
  | failed first | ended first | astray first | linked first => exact ⟨_, _, _, rfl, first⟩

theorem IsLeg.steps (first : engine.IsLeg bound template context session leg) :
    Steps context (.enter .executing :: leg.acts) leg.closing.context := by
  have steps := first.trace.steps
  rw [first.opening] at steps
  exact .cons .enter steps

theorem chained_steps (page : Page) :
    Steps page.context [.enter .layoutChaining, .push (.rendered page.output)] page.chained :=
  .cons .enter (.single .push)

theorem Leg.history_of_failed {error : TemplateError} (fails : leg.result = .error error) :
    leg.history = .enter .executing :: leg.acts := by
  simp [Leg.history, Leg.goesOn, fails, Except.isOk, Except.toBool]

theorem Leg.history_of_ended (ends : leg.closing.layout = none) :
    leg.history = .enter .executing :: leg.acts := by
  simp [Leg.history, Leg.goesOn, ends]

theorem Leg.goesOn_of_chained {layout : String} (succeeds : leg.result = .ok ())
    (names : leg.closing.layout = some layout) : leg.goesOn = true := by
  simp [Leg.goesOn, succeeds, names, Except.isOk, Except.toBool]

theorem Leg.history_of_chained {layout : String} (succeeds : leg.result = .ok ())
    (names : leg.closing.layout = some layout) :
    leg.history = .enter .executing :: leg.acts ++
      [.enter .layoutChaining, .push (.rendered leg.closing.output)] := by
  simp [Leg.history, Leg.goesOn_of_chained succeeds names]

theorem Course.steps (course : engine.Course bound template context session legs rendered) :
    Steps context (legs.flatMap Leg.history) rendered.context := by
  induction course with
  | failed first fails =>
      simpa [Leg.history_of_failed fails] using first.steps
  | ended first succeeds ends =>
      simpa [Leg.history_of_ended ends] using first.steps
  | @astray _ _ _ _ leg _ _ _ first succeeds names =>
      simpa [Leg.history_of_chained succeeds names] using
        first.steps.append (chained_steps leg.closing)
  | @linked _ _ _ _ leg _ _ _ _ _ first succeeds names _ _ ih =>
      rw [List.flatMap_cons, Leg.history_of_chained succeeds names]
      exact (first.steps.append (chained_steps leg.closing)).append ih

theorem ending_steps (rendered : Rendered) :
    Steps rendered.context rendered.ending rendered.finish.context := by
  unfold Rendered.ending Rendered.finish
  cases rendered.result with
  | ok => exact .single .enter
  | error => exact .cons .reset (.single .enter)

theorem Executes.steps
    (executes : engine.Executes bound template model context session legs acts rendered) :
    Steps context acts rendered.context := by
  cases executes with
  | refused => exact .nil
  | ran _ course => exact course.steps.append (ending_steps _)

theorem IsLeg.reset_not_mem (first : engine.IsLeg bound template context session leg) :
    Act.reset ∉ leg.history := by
  intro member
  unfold Leg.history at member
  rcases List.mem_append.mp member with inBody | captured
  · rcases List.mem_cons.mp inBody with same | inBody
    · cases same
    · exact first.trace.ofBody _ inBody
  · split at captured <;> simp at captured

/-- Bodies are dropped and sections forgotten only when a chain has ended. -/
theorem Course.reset_not_mem (course : engine.Course bound template context session legs rendered) :
    Act.reset ∉ legs.flatMap Leg.history := by
  induction course with
  | failed first | ended first | astray first => simpa using first.reset_not_mem
  | linked first _ _ _ _ ih =>
      rw [List.flatMap_cons, List.mem_append, not_or]
      exact ⟨first.reset_not_mem, ih⟩

end Engine

/-! ## Templates whose names are their texts -/

def Instance.ofBody (name : String) (body : Body) : Instance where
  artifact :=
    { serial := 0
      content :=
        { key := name
          fingerprint := .compute name none .dynamic
          modelType := .dynamic
          fileName := none
          generatedSource := name
          loadable := body } }

def Engine.ofBodies (bodies : List (String × Body)) : Engine where
  defaultPipeline := some (StaticPipeline.pipeline { bodies })
  resolver := some (.ofTable (.ofList (bodies.map fun entry => (entry.1, { content := entry.1 }))))

def Body.text (text : String) : Body :=
  .ask (.writeLiteral (.text text))

end Templating
