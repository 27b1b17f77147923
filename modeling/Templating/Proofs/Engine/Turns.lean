import Mathlib.Logic.Relation
import Templating.Proofs.Engine.Bound
import Templating.Proofs.Engine.Course

/-!
The turns of templates.

A template has its turn when its body is about to run: as the first of a chain, as the layout of the
template before it, or as the first of a chain that a body includes.  Turns are told one after the other,
so that they are there also where a render does not come to an end.
-/

namespace Templating

@[simp]
theorem mapError_ok (wrap : ε → ε') (value : α) :
    (Except.ok value : Except ε α).mapError wrap = .ok value := rfl

@[simp]
theorem mapError_error (wrap : ε → ε') (error : ε) :
    (Except.error error : Except ε α).mapError wrap = .error (wrap error) := rfl

/-- The models that templates of a type take. -/
def ModelType.Takes (expected : ModelType) (model : Model) : Prop :=
  expected.isDynamic = true ∨ model = .none ∨
    ∃ typed, model = .typed typed ∧ typed.modelType = expected

theorem ModelType.check_cases (expected : ModelType) (model : Model) :
    (expected.Takes model ∧ expected.check model = .ok ()) ∨
      (¬ expected.Takes model ∧
        expected.check model = .error (.modelTypeMismatch expected.name model.modelType.name)) := by
  unfold ModelType.check ModelType.Takes
  by_cases dynamic : expected.isDynamic = true
  · simp [dynamic]
  · cases model with
    | none => simp
    | dynamic fields => simp [dynamic, Model.modelType]
    | typed typed =>
        by_cases same : typed.modelType = expected
        · simp [same]
        · simp [dynamic, same, Model.modelType]

theorem Instance.bindModel_eq_ok_iff {template bound : Instance} {model : Model} :
    template.bindModel model = .ok bound ↔
      template.modelType.Takes model ∧ bound = { template with model } := by
  rcases template.modelType.check_cases model with ⟨takes, checked⟩ | ⟨refuses, checked⟩
  · simp [Instance.bindModel, checked, takes, eq_comm]
  · simp [Instance.bindModel, checked, refuses]

theorem Instance.bindModel_eq_error_iff {template : Instance} {model : Model} {error : UsageError} :
    template.bindModel model = .error error ↔ ¬ template.modelType.Takes model ∧
      error = .modelTypeMismatch template.modelType.name model.modelType.name := by
  rcases template.modelType.check_cases model with ⟨takes, checked⟩ | ⟨refuses, checked⟩
  · simp [Instance.bindModel, checked, takes]
  · simp [Instance.bindModel, checked, refuses, eq_comm]

/-- A template in the context and the session in which it has its turn. -/
structure Turn where
  template : Instance
  context : Context
  session : Session Body

namespace Turn

def opening (turn : Turn) : Page :=
  Page.start turn.template { turn.context with state := .executing } turn.session

def bind (turn : Turn) (model : Model) : Except UsageError Turn :=
  (turn.template.bindModel model).map fun template => { turn with template }

theorem bind_eq_ok_iff {turn next : Turn} {model : Model} :
    turn.bind model = .ok next ↔ turn.template.modelType.Takes model ∧
      next = { turn with template := { turn.template with model } } := by
  unfold bind
  cases binds : turn.template.bindModel model with
  | ok bound =>
      obtain ⟨takes, rfl⟩ := Instance.bindModel_eq_ok_iff.mp binds
      simp [Except.map, takes, eq_comm]
  | error error =>
      obtain ⟨refuses, _⟩ := Instance.bindModel_eq_error_iff.mp binds
      simp [Except.map, refuses]

end Turn

/-- The points that the run of a body comes to: what is left to run, and the page it is to run on. -/
inductive Body.Visits (engine : Engine) (template : Instance) (includer : Includer) :
    Body → Page → Body → Page → Prop where
  | here {body : Body} {page : Page} : Visits engine template includer body page body page
  | call {callback : Callback} {reply : callback.Reply} {after : callback.Reply → Body}
      {page next now : Page} {body : Body}
      (answers : page.answer engine template callback = some (reply, next))
      (goes : Visits engine template includer (after reply) next body now) :
      Visits engine template includer (.call callback after) page body now
  | refused {name : String} {inner : Body} {after : Except TemplateError Unit → Body}
      {page now : Page} {body : Body}
      (defined : page.context.isSectionDefined name = true)
      (goes : Visits engine template includer (after (.error (.usage (.duplicateSection name)))) page
        body now) :
      Visits engine template includer (.captureSection name inner after) page body now
  | inside {name : String} {inner : Body} {after : Except TemplateError Unit → Body}
      {page now : Page} {body : Body}
      (undefined : page.context.isSectionDefined name = false)
      (goes : Visits engine template includer inner { page with output := "" } body now) :
      Visits engine template includer (.captureSection name inner after) page body now
  | broken {name : String} {inner : Body} {after : Except TemplateError Unit → Body}
      {page within now : Page} {error : TemplateError} {body : Body}
      (undefined : page.context.isSectionDefined name = false)
      (breaks : inner.run engine template includer { page with output := "" } =
        some (.error error, within))
      (goes : Visits engine template includer (after (.error error))
        { within with output := page.output } body now) :
      Visits engine template includer (.captureSection name inner after) page body now
  | captured {name : String} {inner : Body} {after : Except TemplateError Unit → Body}
      {page within next now : Page} {reply : Except TemplateError Unit} {body : Body}
      (undefined : page.context.isSectionDefined name = false)
      (captures : inner.run engine template includer { page with output := "" } =
        some (.ok (), within))
      (defines : { within with output := page.output }.defineSection name (.rendered within.output) =
        (reply, next))
      (goes : Visits engine template includer (after reply) next body now) :
      Visits engine template includer (.captureSection name inner after) page body now
  | included {name : String} {model : Model} {after : Except TemplateError Producer → Body}
      {page now : Page} {given : Except TemplateError String} {session : Session Body} {body : Body}
      (includes : includer name model page.context.viewBag page.session = some (given, session))
      (goes : Visits engine template includer (after (given.map .rendered)) { page with session }
        body now) :
      Visits engine template includer (.includeTemplate name model after) page body now

/-- Each include in the trace of a body is a point that the run of the body comes to. -/
theorem Body.Trace.visits {engine : Engine} {template : Instance} {includer : Includer} {body : Body}
    {page final : Page} {acts : List Context.Act} {result : Except TemplateError Unit} {name : String}
    {model : Model} {reply : Except TemplateError Producer}
    (trace : body.Trace engine template includer page acts result final)
    (member : .includeTemplate name model reply ∈ acts) :
    ∃ now next, body.Visits engine template includer page (.includeTemplate name model next) now := by
  induction trace with
  | done => simp at member
  | call answers goes ih =>
      rcases List.mem_append.mp member with asked | later
      · exact (Callback.not_mem_acts_includeTemplate asked).elim
      · obtain ⟨now, next, visits⟩ := ih later
        exact ⟨now, next, .call answers visits⟩
  | refused defined goes ih =>
      obtain ⟨now, next, visits⟩ := ih (by simpa using member)
      exact ⟨now, next, .refused defined visits⟩
  | broken undefined breaks goes ihInner ih =>
      rcases List.mem_append.mp member with inside | later
      · obtain ⟨now, next, visits⟩ := ihInner inside
        exact ⟨now, next, .inside undefined visits⟩
      · obtain ⟨now, next, visits⟩ := ih later
        exact ⟨now, next, .broken undefined breaks.run visits⟩
  | captured undefined captures defines goes ihInner ih =>
      rcases List.mem_append.mp member with inside | later
      · obtain ⟨now, next, visits⟩ := ihInner inside
        exact ⟨now, next, .inside undefined visits⟩
      · obtain ⟨now, next, visits⟩ := ih (by simpa using later)
        exact ⟨now, next, .captured undefined captures.run defines visits⟩
  | included includes goes ih =>
      rcases List.mem_cons.mp member with same | later
      · cases same
        exact ⟨_, _, .here⟩
      · obtain ⟨now, next, visits⟩ := ih later
        exact ⟨now, next, .included includes visits⟩

namespace Engine

/-- The body of a turn has ended, and the layout that it has named is found. -/
def HandsOn (engine : Engine) (turn layout : Turn) : Prop :=
  ∃ bound page name,
    engine.runBody bound turn.template turn.context turn.session = some (.ok (), page) ∧
    page.layout = some name ∧ layout.context = page.chained ∧
    engine.findTemplate name (page.session.record (.layoutChained turn.template.name name)) =
      some (.ok (some layout.template), layout.session)

/-- The next turn of a chain: that of the layout, with the same model. -/
def Follows (engine : Engine) (turn next : Turn) : Prop :=
  ∃ layout, engine.HandsOn turn layout ∧ layout.bind turn.template.model = .ok next

/-- The body of a turn includes a template, which is found. -/
def Enters (engine : Engine) (turn : Turn) (name : String) (model : Model) (inner : Turn) : Prop :=
  ∃ bound now next,
    turn.template.body.Visits engine turn.template (engine.runNamed (engine.chain bound)) turn.opening
      (.includeTemplate name model next) now ∧
    inner.context = .withViewBag now.context.viewBag ∧
    engine.findTemplate name now.session = some (.ok (some inner.template), inner.session)

/-- The turns of a render of `root` with a model, those of included chains among them, each with the
model that its chain is given. -/
inductive Executed (engine : Engine) (root : Turn) (model : Model) : Turn → Model → Prop where
  | root (binds : root.bind model = .ok turn) : Executed engine root model turn model
  | layout (executed : Executed engine root model turn given) (follows : engine.Follows turn next) :
      Executed engine root model next given
  | included {inner : Turn} (executed : Executed engine root model turn given)
      (enters : engine.Enters turn name passed inner) (binds : inner.bind passed = .ok next) :
      Executed engine root model next passed

variable {engine : Engine} {bound : Nat} {turn next layout other : Turn} {model : Model}
  {legs : List Leg} {rendered : Rendered}

theorem HandsOn.unique (hands : engine.HandsOn turn layout) (hands' : engine.HandsOn turn other) :
    layout = other := by
  obtain ⟨bound, page, name, ran, names, context, finds⟩ := hands
  obtain ⟨bound', page', name', ran', names', context', finds'⟩ := hands'
  cases Body.run_unique engine.ascends_runNamed ran ran'
  cases names.symm.trans names'
  obtain ⟨template, _, session⟩ := layout
  obtain ⟨template', _, session'⟩ := other
  cases context.trans context'.symm
  cases finds.symm.trans finds'
  rfl

theorem layoutOf_eq_ok_iff {template next : Instance} {name : String} {session after : Session Body} :
    engine.layoutOf template name session = some (.ok next, after) ↔
      ∃ found, engine.findTemplate name session = some (.ok (some found), after) ∧
        found.bindModel template.model = .ok next := by
  unfold layoutOf
  split
  · next finds => simp [finds]
  · next finds => simp [finds]
  · next finds => simp [finds]
  · next found left finds =>
      constructor
      · intro looks
        refine ⟨found, ?_⟩
        cases binds : found.bindModel template.model with
        | ok bound => simpa [finds, binds, and_comm] using looks
        | error error => simp [binds] at looks
      · rintro ⟨other, same, binds⟩
        cases finds.symm.trans same
        simp [binds]

theorem follows_iff :
    engine.Follows turn next ↔ ∃ bound page name,
      engine.runBody bound turn.template turn.context turn.session = some (.ok (), page) ∧
      page.layout = some name ∧ next.context = page.chained ∧
      engine.layoutOf turn.template name
          (page.session.record (.layoutChained turn.template.name name)) =
        some (.ok next.template, next.session) := by
  constructor
  · rintro ⟨layout, ⟨bound, page, name, ran, names, chained, finds⟩, binds⟩
    obtain ⟨takes, rfl⟩ := Turn.bind_eq_ok_iff.mp binds
    exact ⟨bound, page, name, ran, names, chained, layoutOf_eq_ok_iff.mpr
      ⟨layout.template, finds, Instance.bindModel_eq_ok_iff.mpr ⟨takes, rfl⟩⟩⟩
  · rintro ⟨bound, page, name, ran, names, chained, looks⟩
    obtain ⟨found, finds, binds⟩ := layoutOf_eq_ok_iff.mp looks
    obtain ⟨takes, same⟩ := Instance.bindModel_eq_ok_iff.mp binds
    refine ⟨⟨found, page.chained, next.session⟩, ⟨bound, page, name, ran, names, rfl, finds⟩,
      Turn.bind_eq_ok_iff.mpr ⟨takes, ?_⟩⟩
    rw [← same, ← chained]

/-- A chain comes to what it comes to from its next turn on. -/
theorem Follows.chain (follows : engine.Follows turn next)
    (goes : engine.chain bound next.template next.context next.session = some rendered) :
    ∃ larger, engine.chain larger turn.template turn.context turn.session = some rendered := by
  obtain ⟨bound', page, name, ran, names, chained, looks⟩ := follows_iff.mp follows
  have ran := runBody_within (engine.chain_within (Nat.le_max_right bound bound')) ran
  have goes := engine.chain_within (Nat.le_max_left bound bound') _ _ _ _ goes
  rw [chained] at goes
  exact ⟨_, chain_succ_eq_some_iff.mpr (.linked ran names looks goes)⟩

theorem chain_of_turns (turns : Relation.ReflTransGen engine.Follows turn next)
    (goes : engine.chain bound next.template next.context next.session = some rendered) :
    ∃ larger, engine.chain larger turn.template turn.context turn.session = some rendered := by
  induction turns using Relation.ReflTransGen.head_induction_on with
  | refl => exact ⟨bound, goes⟩
  | head follows _ ih =>
      obtain ⟨larger, ran⟩ := ih
      exact follows.chain ran

theorem IsLeg.follows {template next : Instance} {context : Context} {session after : Session Body}
    {leg : Leg} {name : String} (first : engine.IsLeg bound template context session leg)
    (succeeds : leg.result = .ok ()) (names : leg.closing.layout = some name)
    (looks : engine.layoutOf template name
      (leg.closing.session.record (.layoutChained template.name name)) = some (.ok next, after)) :
    engine.Follows ⟨template, context, session⟩ ⟨next, leg.closing.chained, after⟩ :=
  follows_iff.mpr ⟨_, _, _, succeeds ▸ first.runBody, names, rfl, looks⟩

/-- The legs of a chain are the turns that it has gone through. -/
theorem Course.turns {template : Instance} {context : Context} {session : Session Body}
    (course : engine.Course bound template context session legs rendered) :
    ∀ leg ∈ legs, ∃ turn, Relation.ReflTransGen engine.Follows ⟨template, context, session⟩ turn ∧
      ∃ depth, engine.IsLeg depth turn.template turn.context turn.session leg := by
  have opens {bound : Nat} {template : Instance} {context : Context} {session : Session Body}
      {leg : Leg} (first : engine.IsLeg bound template context session leg) :
      ∃ turn, Relation.ReflTransGen engine.Follows ⟨template, context, session⟩ turn ∧
        ∃ depth, engine.IsLeg depth turn.template turn.context turn.session leg :=
    ⟨_, .refl, bound, first⟩
  induction course with
  | failed first | ended first | astray first => simpa using opens first
  | linked first succeeds names looks rest ih =>
      have follows := first.follows succeeds names looks
      refine List.forall_mem_cons.mpr ⟨opens first, fun other member => ?_⟩
      obtain ⟨turn, turns, isLeg⟩ := ih other member
      exact ⟨turn, .head follows turns, isLeg⟩

end Engine
end Templating
