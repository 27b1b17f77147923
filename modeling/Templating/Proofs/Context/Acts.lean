import Templating.Context
import Templating.Model

/-!
What is done to a context.

An act is one operation on a context together with its answer.  Whatever happens to a context, in a
render or between two renders, is a list of acts; `Steps` says where a list of acts leads.
-/

namespace Templating.Context

inductive Act where
  | push (body : Producer)
  | pop (result : Except TemplateError Producer)
  /-- An attempt to define a section, with what it is defined as. -/
  | define (name : String) (result : Except TemplateError Producer)
  | render (name : String) (required : Bool) (result : Except TemplateError Producer)
  | seek (name : String) (found : Bool)
  | changeBag (change : ViewBag → ViewBag)
  /-- Looks at the view bag, at the state or at the number of pending bodies. -/
  | look
  | enter (state : RenderState)
  | reset
  /-- Another template is rendered in a context of its own. -/
  | includeTemplate (name : String) (model : Model) (result : Except TemplateError Producer)

inductive Step : Context → Act → Context → Prop where
  | push : Step context (.push body) (context.pushBody body)
  | pop (pops : context.popBody = .ok (body, next)) : Step context (.pop (.ok body)) next
  | popFails (fails : context.popBody = .error error) :
      Step context (.pop (.error (.usage error))) context
  | define (defines : context.defineSection name producer = .ok next) :
      Step context (.define name (.ok producer)) next
  | defineFails (fails : context.defineSection name producer = .error error) :
      Step context (.define name (.error (.usage error))) context
  | render (renders : (context.renderSection name required).mapError .usage = result) :
      Step context (.render name required result) context
  | seek (seeks : context.isSectionDefined name = found) : Step context (.seek name found) context
  | changeBag :
      Step context (.changeBag change) { context with viewBag := change context.viewBag }
  | look : Step context .look context
  | enter : Step context (.enter entered) { context with state := entered }
  | reset : Step context .reset context.resetChain
  | includeTemplate : Step context (.includeTemplate name model result) context

inductive Steps : Context → List Act → Context → Prop where
  | nil : Steps context [] context
  | cons (step : Step before act middle) (rest : Steps middle acts after) :
      Steps before (act :: acts) after

variable {before middle after context : Context} {act : Act} {acts more : List Act}

theorem Steps.single (step : Step before act after) : Steps before [act] after :=
  .cons step .nil

theorem Steps.append (first : Steps before acts middle) (rest : Steps middle more after) :
    Steps before (acts ++ more) after := by
  induction first with
  | nil => exact rest
  | cons step _ ih => exact .cons step (ih rest)

theorem steps_append_iff :
    Steps before (acts ++ more) after ↔ ∃ middle, Steps before acts middle ∧ Steps middle more after := by
  constructor
  · intro steps
    induction acts generalizing before with
    | nil => exact ⟨before, .nil, steps⟩
    | cons act rest ih =>
        cases steps with
        | cons step steps =>
            obtain ⟨middle, first, rest⟩ := ih steps
            exact ⟨middle, .cons step first, rest⟩
  · rintro ⟨middle, first, rest⟩
    exact first.append rest

theorem steps_cons_iff :
    Steps before (act :: acts) after ↔ ∃ middle, Step before act middle ∧ Steps middle acts after := by
  constructor
  · rintro (_ | ⟨step, rest⟩)
    exact ⟨_, step, rest⟩
  · rintro ⟨middle, step, rest⟩
    exact .cons step rest

theorem steps_nil_iff : Steps before [] after ↔ after = before := by
  constructor
  · rintro ⟨⟩
    rfl
  · rintro rfl
    exact .nil

/-! ## What an act makes of each part of a context -/

namespace Act

def onBodies : Act → List Producer → List Producer
  | .push body, bodies => body :: bodies
  | .pop (.ok _), bodies => bodies.tail
  | .reset, _ => []
  | _, bodies => bodies

def onBag : Act → ViewBag → ViewBag
  | .changeBag change, bag => change bag
  | _, bag => bag

/-- The answer to a request for a body, if the act is one. -/
def popped? : Act → Option (Except TemplateError Producer)
  | .pop result => some result
  | _ => none

end Act

theorem popBody_eq_ok_iff {body : Producer} {next : Context} :
    context.popBody = .ok (body, next) ↔
      context.bodies = body :: context.bodies.tail ∧
        next = { context with bodies := context.bodies.tail } := by
  unfold popBody
  cases bodies : context.bodies with
  | nil => simp
  | cons first rest =>
      simp only [List.tail_cons, Except.ok.injEq, Prod.mk.injEq, List.cons.injEq, and_true]
      exact and_congr_right fun _ => eq_comm

theorem popBody_eq_error_iff {error : UsageError} :
    context.popBody = .error error ↔ context.bodies = [] ∧ error = .emptyBodyStack := by
  unfold popBody
  cases context.bodies with
  | nil => simp [eq_comm]
  | cons first rest => simp

theorem defineSection_eq_ok_iff {name : String} {producer : Producer} {next : Context} :
    context.defineSection name producer = .ok next ↔
      context.sections.get? name = none ∧
        next = { context with sections := context.sections.insert name producer } := by
  have defined : context.isSectionDefined name = (context.sections.get? name).isSome := rfl
  unfold defineSection
  cases found : context.sections.get? name with
  | none => simp [defined, found, eq_comm]
  | some _ => simp [defined, found]

theorem defineSection_eq_error_iff {name : String} {producer : Producer} {error : UsageError} :
    context.defineSection name producer = .error error ↔
      context.isSectionDefined name = true ∧ error = .duplicateSection name := by
  unfold defineSection
  cases context.isSectionDefined name with
  | false => simp
  | true => simp [eq_comm]

namespace Step

/-- A second definition fails, whatever the section was to be. -/
theorem duplicate {name : String} (defined : context.isSectionDefined name = true) :
    Step context (.define name (.error (.usage (.duplicateSection name)))) context := by
  have fails : context.defineSection name .empty = .error (.duplicateSection name) :=
    defineSection_eq_error_iff.mpr ⟨defined, rfl⟩
  exact .defineFails fails

theorem bodies (step : Step before act after) : after.bodies = act.onBodies before.bodies := by
  cases step with
  | pop pops =>
      obtain ⟨_, rfl⟩ := popBody_eq_ok_iff.mp pops
      rfl
  | define defines =>
      obtain ⟨_, rfl⟩ := defineSection_eq_ok_iff.mp defines
      rfl
  | _ => rfl

theorem viewBag (step : Step before act after) : after.viewBag = act.onBag before.viewBag := by
  cases step with
  | pop pops =>
      obtain ⟨_, rfl⟩ := popBody_eq_ok_iff.mp pops
      rfl
  | define defines =>
      obtain ⟨_, rfl⟩ := defineSection_eq_ok_iff.mp defines
      rfl
  | _ => rfl

/-- A request for a body is answered with the one that was captured last. -/
theorem pop_result {result : Except TemplateError Producer} (step : Step before (.pop result) after) :
    result = match before.bodies with
      | [] => .error (.usage .emptyBodyStack)
      | body :: _ => .ok body := by
  cases step with
  | pop pops =>
      obtain ⟨bodies, _⟩ := popBody_eq_ok_iff.mp pops
      rw [bodies]
  | popFails fails =>
      obtain ⟨bodies, rfl⟩ := popBody_eq_error_iff.mp fails
      rw [bodies]

end Step

theorem Steps.viewBag (steps : Steps before acts after) :
    after.viewBag = acts.foldl (fun bag act => act.onBag bag) before.viewBag := by
  induction steps with
  | nil => rfl
  | cons step _ ih => rw [ih, step.viewBag, List.foldl_cons]

end Templating.Context
