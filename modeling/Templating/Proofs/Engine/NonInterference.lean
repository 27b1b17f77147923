import Templating.Pipeline.Static
import Templating.Proofs.Engine.Discreet

/-!
Two renders whose models differ in their texts.

If all templates of an engine are discreet, the two renders take the same steps.  Their pages have the
same marks at every step, their sessions the same cache, and so they end alike: with the same error, or
with outputs that have the same marks.
-/

namespace Templating

open Entity (marks)

variable {policy : Policy}

/-- The templates of an engine, page or layout or included, are discreet, and encode for HTML. -/
structure Engine.Discreet (policy : Policy) (engine : Engine) : Prop where
  encoding : engine.config.encoding = .html
  resolves : ∀ name input, engine.input? name = some input → policy.admits input
  bodies : ∀ input artifact, policy.admits input → engine.outcome input = .ok artifact →
    artifact.loadable.Discreet policy

abbrev Session.Alike (policy : Policy) (session session' : Session Body) : Prop :=
  Session.Peers (fun artifact => artifact.loadable.Discreet policy) session session'

structure Instance.Alike (template template' : Instance) : Prop where
  artifact : template.artifact = template'.artifact
  model : template.model.Alike template'.model
  layout : template.layout = template'.layout

structure Page.Alike (policy : Policy) (page page' : Page) : Prop where
  output : marks page.output = marks page'.output
  layout : page.layout = page'.layout
  context : page.context.Alike policy page'.context
  session : page.session.Alike policy page'.session

variable {engine : Engine} {template template' : Instance} {page page' : Page}
  {model model' : Model}

theorem Model.Alike.field? (models : model.Alike model') (name : String) :
    (model.field? name).map Value.outline = (model'.field? name).map Value.outline := by
  cases models with
  | dynamic same => exact Fields.get?_of_outline same name
  | _ => rfl

theorem Model.Alike.typedModel (models : model.Alike model') (type : ModelType) :
    (Page.typedModel model type).map Value.outline =
      (Page.typedModel model' type).map Value.outline := by
  cases models with
  | typed found same =>
      simp only [Page.typedModel, Model.downcast?, TypedModel.downcast?]
      by_cases right : found = type
      · simp [right, Except.map, same]
      · simp [right, Except.map, Model.modelType]
  | _ => rfl

theorem Page.Alike.defineSection (pages : page.Alike policy page') (name : String)
    {producer producer' : Producer} (same : producer.outline = producer'.outline) :
    (page.defineSection name producer).1 = (page'.defineSection name producer').1 ∧
      (page.defineSection name producer).2.Alike policy (page'.defineSection name producer').2 := by
  have defined := pages.context.isSectionDefined name
  cases defined' : page'.context.isSectionDefined name with
  | true =>
      simp only [Page.defineSection, Context.defineSection, defined.trans defined', defined', if_true]
      exact ⟨trivial, pages⟩
  | false =>
      simp only [Page.defineSection, Context.defineSection, defined.trans defined', defined',
        Bool.false_eq_true, if_false]
      refine ⟨trivial, pages.output, pages.layout, ?_, pages.session.record _ _⟩
      exact ⟨pages.context.viewBag, pages.context.bodies,
        Fields.insert_of_outline pages.context.sections same, pages.context.state⟩

theorem Page.Alike.renderBody (pages : page.Alike policy page') :
    page.renderBody.1.map Producer.outline = page'.renderBody.1.map Producer.outline ∧
      page.renderBody.2.Alike policy page'.renderBody.2 := by
  have bodies := pages.context.bodies
  unfold Page.renderBody Context.popBody
  cases stack : page.context.bodies <;> cases stack' : page'.context.bodies <;>
    simp only [stack, stack', List.map_nil, List.map_cons, reduceCtorEq, List.cons.injEq] at bodies ⊢
  · exact ⟨trivial, pages⟩
  · refine ⟨by simp only [Except.map, bodies.1], pages.output, pages.layout, ?_, pages.session⟩
    exact ⟨pages.context.viewBag, bodies.2, pages.context.sections, pages.context.state⟩

theorem Page.Alike.withBag (pages : page.Alike policy page') {bag bag' : ViewBag}
    (same : policy.bag bag = policy.bag bag') :
    Page.Alike policy { page with context := { page.context with viewBag := bag } }
      { page' with context := { page'.context with viewBag := bag' } } :=
  ⟨pages.output, pages.layout,
    ⟨same, pages.context.bodies, pages.context.sections, pages.context.state⟩, pages.session⟩

theorem map_mapError (result : Except ε α) (onError : ε → ε') (onOk : α → β) :
    (result.map onOk).mapError onError = (result.mapError onError).map onOk := by
  cases result <;> rfl

theorem Page.answer_alike (discreet : engine.Discreet policy) (templates : template.Alike template')
    (pages : page.Alike policy page') {callback callback' : Callback}
    {replies : callback.Reply → callback'.Reply → Prop}
    (asks : callback.Alike policy callback' replies) :
    Option.Rel (fun given given' => replies given.1 given'.1 ∧ given.2.Alike policy given'.2)
      (page.answer engine template callback) (page'.answer engine template' callback') := by
  cases asks with
  | write written =>
      refine .some ⟨trivial, ?_, pages.layout, pages.context, pages.session⟩
      simp [Value.write, discreet.encoding, pages.output, written.marks_markup]
  | writeLiteral verbatim =>
      refine .some ⟨trivial, ?_, pages.layout, pages.context, pages.session⟩
      simp [Value.writeLiteral, pages.output, verbatim.marks_display]
  | writeAttribute alike =>
      refine .some ⟨trivial, ?_, pages.layout, pages.context, pages.session⟩
      rw [discreet.encoding]
      exact Attribute.marks_write alike pages.output
  | output => exact .some ⟨pages.output, pages⟩
  | setLayout name => exact .some ⟨trivial, pages.output, rfl, pages.context, pages.session⟩
  | layout => exact .some ⟨pages.layout, pages⟩
  | renderBody => exact .some pages.renderBody
  | defineSection name same => exact .some (pages.defineSection name same)
  | renderSection name required =>
      have same := congrArg (Except.mapError TemplateError.usage)
        (pages.context.renderSection name required)
      rw [map_mapError, map_mapError] at same
      exact .some ⟨same, pages⟩
  | isSectionDefined name => exact .some ⟨pages.context.isSectionDefined name, pages⟩
  | model => exact .some ⟨templates.model, pages⟩
  | field name => exact .some ⟨templates.model.field? name, pages⟩
  | typedModel type => exact .some ⟨templates.model.typedModel type, pages⟩
  | viewBag => exact .some ⟨pages.context.viewBag, pages⟩
  | setInBag name same =>
      exact .some ⟨Fields.get?_of_outline pages.context.viewBag name,
        pages.withBag (Fields.insert_of_outline pages.context.viewBag same)⟩
  | removeFromBag name =>
      exact .some ⟨Fields.get?_of_outline pages.context.viewBag name,
        pages.withBag (Fields.erase_of_outline pages.context.viewBag name)⟩
  | templateName => exact .some ⟨by rw [Instance.name, Instance.name, templates.artifact], pages⟩
  | @compile input admitted =>
      have made := Engine.compile_peers pages.session fun artifact =>
        discreet.bodies input artifact admitted
      simp only [Page.answer]
      generalize engine.compile input page.session = given,
        engine.compile input page'.session = given' at made ⊢
      cases made with
      | none => exact .none
      | some agree =>
          obtain ⟨same, _, sessions⟩ := agree
          exact .some ⟨congrArg (Except.map Instance.name) same,
            pages.output, pages.layout, pages.context, sessions⟩
  | note text text' =>
      exact .some ⟨trivial, pages.output, pages.layout, pages.context, pages.session.record _ _⟩

/-- What renders by name comes to alike results for alike models and view bags. -/
def Includer.Discreet (policy : Policy) (includer : Includer) : Prop :=
  ∀ name model model' bag bag' session session', model.Alike model' →
    policy.bag bag = policy.bag bag' → session.Alike policy session' →
    Option.Rel
      (fun given given' =>
        given.1.map marks = given'.1.map marks ∧ given.2.Alike policy given'.2)
      (includer name model bag session) (includer name model' bag' session')

theorem outline_of_marks {result result' : Except ε String}
    (same : result.map marks = result'.map marks) :
    (result.map Producer.rendered).map Producer.outline =
      (result'.map Producer.rendered).map Producer.outline := by
  have outlined (result : Except ε String) :
      (result.map Producer.rendered).map Producer.outline = (result.map marks).map some := by
    cases result <;> rfl
  rw [outlined, outlined, same]

theorem Body.run_alike (discreet : engine.Discreet policy) (templates : template.Alike template')
    {includer : Includer} (includes : includer.Discreet policy) {body body' : Body}
    (alike : body.Alike policy body') (pages : page.Alike policy page') :
    Option.Rel (fun given given' => given.1 = given'.1 ∧ given.2.Alike policy given'.2)
      (body.run engine template includer page) (body'.run engine template' includer page') := by
  -- Both bodies are taken apart side by side, and the pages stay alike from one request to the next.
  induction alike generalizing page page' with
  | done result => exact .some ⟨rfl, pages⟩
  | @call callback callback' replies next next' asks goes ih =>
      have answered := Page.answer_alike discreet templates pages asks
      simp only [Body.run]
      generalize page.answer engine template callback = given,
        page'.answer engine template' callback' = given' at answered ⊢
      cases answered with
      | none => exact .none
      | some agree => exact ih _ _ agree.1 agree.2
  | @captureSection name inner inner' next next' captures goes ihInner ih =>
      have entered : Page.Alike policy { page with output := "" } { page' with output := "" } :=
        ⟨rfl, pages.layout, pages.context, pages.session⟩
      have ran := ihInner entered
      simp only [Body.run, pages.context.isSectionDefined name]
      split
      · exact ih _ pages
      · generalize inner.run engine template includer { page with output := "" } = given,
          inner'.run engine template' includer { page' with output := "" } = given' at ran ⊢
        cases ran with
        | none => exact .none
        | @some given given' agree =>
            obtain ⟨result, inside⟩ := given
            obtain ⟨_, inside'⟩ := given'
            obtain ⟨rfl, insides⟩ := agree
            have restored : Page.Alike policy { inside with output := page.output }
                { inside' with output := page'.output } :=
              ⟨pages.output, insides.layout, insides.context, insides.session⟩
            cases result with
            | error error => exact ih _ restored
            | ok =>
                have captured : (Producer.rendered inside.output).outline =
                    (Producer.rendered inside'.output).outline := congrArg some insides.output
                obtain ⟨same, defined⟩ := restored.defineSection name captured
                simp only
                rw [same]
                exact ih _ defined
  | @includeTemplate name model model' next next' models goes ih =>
      have included := includes name model model' page.context.viewBag page'.context.viewBag
        page.session page'.session models pages.context.viewBag pages.session
      simp only [Body.run]
      generalize includer name model page.context.viewBag page.session = given,
        includer name model' page'.context.viewBag page'.session = given' at included ⊢
      cases included with
      | none => exact .none
      | some agree =>
          exact ih _ _ (outline_of_marks agree.1)
            ⟨pages.output, pages.layout, pages.context, agree.2⟩

/-! ## Chains -/

structure Rendered.Alike (policy : Policy) (rendered rendered' : Rendered) : Prop where
  result : rendered.result.map marks = rendered'.result.map marks
  context : rendered.context.Alike policy rendered'.context
  session : rendered.session.Alike policy rendered'.session

/-- What runs a chain comes to alike ends for alike templates and contexts. -/
def Chain.Discreet (policy : Policy) (chain : Chain) : Prop :=
  ∀ template template' context context' session session', template.Alike template' →
    template.body.Discreet policy → context.Alike policy context' → session.Alike policy session' →
    Option.Rel (Rendered.Alike policy) (chain template context session)
      (chain template' context' session')

theorem Model.Alike.check (models : model.Alike model') (expected : ModelType) :
    expected.check model = expected.check model' := by
  cases models <;> rfl

theorem Context.Alike.withState {context context' : Context} (contexts : context.Alike policy context')
    (state : RenderState) :
    Context.Alike policy { context with state := state } { context' with state := state } :=
  ⟨contexts.viewBag, contexts.bodies, contexts.sections, rfl⟩

theorem Page.Alike.chained (pages : page.Alike policy page') :
    page.chained.Alike policy page'.chained where
  viewBag := pages.context.viewBag
  bodies := congrArg₂ List.cons (congrArg some pages.output) pages.context.bodies
  sections := pages.context.sections
  state := rfl

theorem Context.withViewBag_alike {bag bag' : ViewBag} (same : policy.bag bag = policy.bag bag') :
    (Context.withViewBag bag).Alike policy (Context.withViewBag bag') :=
  ⟨same, rfl, rfl, rfl⟩

theorem Rendered.Alike.finish {rendered rendered' : Rendered}
    (alike : rendered.Alike policy rendered') : rendered.finish.Alike policy rendered'.finish := by
  obtain ⟨result, context, session⟩ := rendered
  obtain ⟨result', context', session'⟩ := rendered'
  obtain ⟨results, contexts, sessions⟩ := alike
  cases result <;> cases result' <;> simp only [Except.map, reduceCtorEq] at results
  · exact ⟨results, ⟨contexts.viewBag, rfl, rfl, rfl⟩, sessions⟩
  · exact ⟨results, contexts.withState .idle, sessions⟩

theorem rel_map {Relates : α → β → Prop} {Relates' : γ → δ → Prop} {first : Option α}
    {second : Option β} {left : α → γ} {right : β → δ} (related : Option.Rel Relates first second)
    (kept : ∀ value value', Relates value value' → Relates' (left value) (right value')) :
    Option.Rel Relates' (first.map left) (second.map right) := by
  cases related with
  | none => exact .none
  | some related => exact .some (kept _ _ related)

theorem runInstance_alike {chain : Chain} (chains : chain.Discreet policy)
    (artifacts : template.artifact = template'.artifact) (layouts : template.layout = template'.layout)
    (body : template.body.Discreet policy) (models : model.Alike model') {context context' : Context}
    (contexts : context.Alike policy context') {session session' : Session Body}
    (sessions : session.Alike policy session') :
    Option.Rel (Rendered.Alike policy) (Engine.runInstance chain template model context session)
      (Engine.runInstance chain template' model' context' session') := by
  have types : template.modelType = template'.modelType := by
    rw [Instance.modelType, Instance.modelType, artifacts]
  unfold Engine.runInstance Instance.bindModel
  rw [types, models.check]
  cases template'.modelType.check model' with
  | error error => exact .some ⟨rfl, contexts, sessions⟩
  | ok =>
      have bound : Instance.Alike { template with model := model } { template' with model := model' } :=
        ⟨artifacts, models, layouts⟩
      exact rel_map (chains _ _ context context' session session' bound body contexts sessions)
        fun _ _ => Rendered.Alike.finish

inductive Chained (policy : Policy) :
    Except TemplateError Instance → Except TemplateError Instance → Prop where
  | error (error : TemplateError) : Chained policy (.error error) (.error error)
  | ok {next next' : Instance} (templates : next.Alike next') (body : next.body.Discreet policy) :
      Chained policy (.ok next) (.ok next')

namespace Engine

variable {context context' : Context} {session session' : Session Body}

theorem Discreet.find (discreet : engine.Discreet policy) (sessions : session.Alike policy session')
    (name : String) :
    Session.Agree (fun artifact => artifact.loadable.Discreet policy)
      (Finds fun artifact => artifact.loadable.Discreet policy)
      (engine.findTemplate name session) (engine.findTemplate name session') :=
  findTemplate_peers sessions fun input found artifact =>
    discreet.bodies input artifact (discreet.resolves name input found)

theorem runNamed_discreet (discreet : engine.Discreet policy) {chain : Chain}
    (chains : chain.Discreet policy) : Includer.Discreet policy (engine.runNamed chain) := by
  intro name model model' bag bag' session session' models bags sessions
  have found := discreet.find sessions name
  unfold runNamed
  generalize engine.findTemplate name session = given,
    engine.findTemplate name session' = given' at found ⊢
  cases found with
  | none => exact .none
  | @some given given' agree =>
      obtain ⟨result, after⟩ := given
      obtain ⟨_, after'⟩ := given'
      obtain ⟨rfl, finds, sessions⟩ := agree
      rcases result with error | _ | template
      · exact .some ⟨rfl, sessions⟩
      · exact .some ⟨rfl, sessions⟩
      · have ran := runInstance_alike chains rfl rfl (finds _ rfl template rfl) models
          (Context.withViewBag_alike bags) sessions
        exact rel_map ran fun _ _ alike => ⟨alike.result, alike.session⟩

theorem layoutOf_alike (discreet : engine.Discreet policy) (templates : template.Alike template')
    (layout : String) (sessions : session.Alike policy session') :
    Option.Rel
      (fun given given' => Chained policy given.1 given'.1 ∧ given.2.Alike policy given'.2)
      (engine.layoutOf template layout session) (engine.layoutOf template' layout session') := by
  have found := discreet.find sessions layout
  unfold layoutOf
  generalize engine.findTemplate layout session = given,
    engine.findTemplate layout session' = given' at found ⊢
  cases found with
  | none => exact .none
  | @some given given' agree =>
      obtain ⟨result, after⟩ := given
      obtain ⟨_, after'⟩ := given'
      obtain ⟨rfl, finds, sessions⟩ := agree
      rcases result with error | _ | next
      · exact .some ⟨.error _, sessions⟩
      · exact .some ⟨.error _, sessions⟩
      · refine .some ⟨?_, sessions⟩
        simp only [Instance.bindModel, templates.model.check]
        cases next.modelType.check template'.model with
        | error error => exact .error _
        | ok => exact .ok ⟨rfl, templates.model, rfl⟩ (finds _ rfl next rfl)

/-- Chains come to alike ends, however deep they go. -/
theorem chain_discreet (discreet : engine.Discreet policy) (bound : Nat) :
    Chain.Discreet policy (engine.chain bound) := by
  induction bound with
  | zero => exact fun _ _ _ _ _ _ _ _ _ _ => .none
  | succ bound ih =>
      intro template template' context context' session session' templates body contexts sessions
      have bodies : template'.body = template.body := by
        rw [Instance.body, Instance.body, templates.artifact]
      have pages : Page.Alike policy
          (Page.start template { context with state := .executing } session)
          (Page.start template' { context' with state := .executing } session') :=
        ⟨rfl, templates.layout, contexts.withState .executing, sessions⟩
      have ran := Body.run_alike discreet templates (runNamed_discreet discreet ih) body pages
      simp only [chain, includeNamed_eq_runNamed, bodies]
      generalize template.body.run engine template _ _ = given,
        template.body.run engine template' _ _ = given' at ran ⊢
      cases ran with
      | none => exact .none
      | @some given given' agree =>
          obtain ⟨result, page⟩ := given
          obtain ⟨_, page'⟩ := given'
          obtain ⟨rfl, ended⟩ := agree
          cases result with
          | error error => exact .some ⟨rfl, ended.context, ended.session⟩
          | ok =>
              have layouts : page.layout = page'.layout := ended.layout
              have names : template.name = template'.name := by
                rw [Instance.name, Instance.name, templates.artifact]
              simp only [layouts, names]
              cases page'.layout with
              | none => exact .some ⟨congrArg Except.ok ended.output, ended.context, ended.session⟩
              | some layout =>
                  have chained : page.chained.Alike policy page'.chained :=
                    Page.Alike.chained ended
                  have looked := layoutOf_alike discreet templates layout
                    (ended.session.record (.layoutChained template'.name layout)
                      (.layoutChained template'.name layout))
                  simp only
                  generalize engine.layoutOf template layout _ = given,
                    engine.layoutOf template' layout _ = given' at looked ⊢
                  cases looked with
                  | none => exact .none
                  | @some given given' agree =>
                      obtain ⟨result, after⟩ := given
                      obtain ⟨result', after'⟩ := given'
                      obtain ⟨results, sessions⟩ := agree
                      cases results with
                      | error error => exact .some ⟨rfl, chained, sessions⟩
                      | ok templates body => exact ih _ _ _ _ _ _ templates body chained sessions

theorem Discreet.render (discreet : engine.Discreet policy) (bound : Nat)
    (body : template.body.Discreet policy) (models : model.Alike model')
    (contexts : context.Alike policy context') (sessions : session.Alike policy session') :
    Option.Rel (Rendered.Alike policy) (engine.render bound template model context session)
      (engine.render bound template model' context' session') :=
  runInstance_alike (chain_discreet discreet bound) rfl rfl body models contexts sessions

theorem Discreet.run (discreet : engine.Discreet policy) (bound : Nat) (name : String)
    (models : model.Alike model') (bag : ViewBag) (sessions : session.Alike policy session') :
    Option.Rel
      (fun given given' =>
        given.1.map marks = given'.1.map marks ∧ given.2.Alike policy given'.2)
      (engine.run bound name model bag session) (engine.run bound name model' bag session') :=
  runNamed_discreet discreet (chain_discreet discreet bound) name model model' bag bag session
    session' models rfl sessions

theorem Discreet.parse (discreet : engine.Discreet policy) (bound : Nat) {content : String}
    (admitted : policy.admits { content, modelType := model.modelType })
    (models : model.Alike model') (bag : ViewBag) (sessions : session.Alike policy session') :
    Option.Rel
      (fun given given' =>
        given.1.map marks = given'.1.map marks ∧ given.2.Alike policy given'.2)
      (engine.parse bound content model bag session)
      (engine.parse bound content model' bag session') := by
  have types : model.modelType = model'.modelType := by cases models <;> rfl
  have made := compile_peers sessions fun artifact => discreet.bodies _ artifact admitted
  unfold Engine.parse
  rw [← types]
  generalize engine.compile _ session = given at made ⊢
  generalize engine.compile _ session' = given' at made ⊢
  cases made with
  | none => exact .none
  | @some given given' agree =>
      obtain ⟨result, after⟩ := given
      obtain ⟨_, after'⟩ := given'
      obtain ⟨rfl, fits, sessions⟩ := agree
      cases result with
      | error error => exact .some ⟨rfl, sessions⟩
      | ok template =>
          have ran := discreet.render bound (fits template rfl) models
            (Context.withViewBag_alike (rfl : policy.bag bag = policy.bag bag)) sessions
          exact rel_map ran fun _ _ alike => ⟨alike.result, alike.session⟩

end Engine

theorem map_eq_of_rel {Relates : α → β → Prop} {view : α → γ} {view' : β → γ} {first : Option α}
    {second : Option β} (related : Option.Rel Relates first second)
    (same : ∀ value value', Relates value value' → view value = view' value') :
    first.map view = second.map view' := by
  cases related with
  | none => rfl
  | some related => exact congrArg some (same _ _ related)

def Fields.OnlyTexts (fields : Fields Value) : Prop :=
  ∀ entry ∈ fields.entries, ∃ text, entry.2 = .text text

theorem Model.alike_of_texts {fields fields' : Fields Value}
    (names : fields.entries.map Prod.fst = fields'.entries.map Prod.fst) (texts : fields.OnlyTexts)
    (texts' : fields'.OnlyTexts) : Model.Alike (.dynamic fields) (.dynamic fields') := by
  have outlined {fields : Fields Value} (texts : fields.OnlyTexts) :
      fields.outline (fun _ => Value.outline) =
        (fields.entries.map Prod.fst).map fun name => (name, Value.text "") := by
    rw [List.map_map]
    refine List.map_congr_left fun entry member => ?_
    obtain ⟨text, same⟩ := texts entry member
    simp [same, Value.outline]
  exact .dynamic (by rw [outlined texts, outlined texts', names])

namespace Engine

/-- Whatever texts two models of the same fields hold, they are rendered to the same marks, or fail
with the same error. -/
theorem renders_keep_marks {policy : Policy} {engine : Engine} (discreet : engine.Discreet policy)
    {session : Session Body}
    (cached : session.cache.Holds fun artifact => artifact.loadable.Discreet policy)
    {fields fields' : Fields Value}
    (names : fields.entries.map Prod.fst = fields'.entries.map Prod.fst) (texts : fields.OnlyTexts)
    (texts' : fields'.OnlyTexts) (bag : ViewBag) (bound : Nat) :
    (∀ name,
      (engine.run bound name (.dynamic fields) bag session).map (·.1.map marks) =
        (engine.run bound name (.dynamic fields') bag session).map (·.1.map marks)) ∧
    (∀ content, policy.admits { content } →
      (engine.parse bound content (.dynamic fields) bag session).map (·.1.map marks) =
        (engine.parse bound content (.dynamic fields') bag session).map (·.1.map marks)) ∧
    (∀ template context, template.body.Discreet policy →
      (engine.render bound template (.dynamic fields) context session).map (·.result.map marks) =
        (engine.render bound template (.dynamic fields') context session).map
          (·.result.map marks)) := by
  have models := Model.alike_of_texts names texts texts'
  have sessions : session.Alike policy session := ⟨rfl, cached⟩
  refine ⟨fun name => ?run, fun content admitted => ?parse, fun template context body => ?render⟩
  case run => exact map_eq_of_rel (discreet.run bound name models bag sessions) fun _ _ => And.left
  case parse =>
    exact map_eq_of_rel (discreet.parse bound admitted models bag sessions) fun _ _ => And.left
  case render =>
    have contexts : context.Alike policy context := ⟨rfl, rfl, rfl, rfl⟩
    exact map_eq_of_rel (discreet.render bound body models contexts sessions)
      fun _ _ => Rendered.Alike.result

/-- An engine is discreet if all templates that it knows were registered ahead of time and are. -/
theorem discreet_of_static {static : StaticPipeline Body} {label : Nat}
    (html : engine.config.encoding = .html) (others : engine.pipelines = [])
    (only : engine.defaultPipeline = some (static.pipeline label))
    (resolves : ∀ name input, engine.input? name = some input → policy.admits input)
    (bodies : ∀ entry ∈ static.bodies, entry.2.Discreet policy) : engine.Discreet policy where
  encoding := html
  resolves := resolves
  bodies := by
    intro input artifact _ comes
    simp only [outcome, pipelineFor_of_only others only] at comes
    exact bodies _ (StaticPipeline.mem_of_compileTemplate comes)

def withUser (next : Value → Body) : Body :=
  .call (.field "user") fun value => next (value.getD .null)

/-- A page about a user, inside a frame, with a card and a section. -/
def profile : StaticPipeline Body :=
  let title (user : Value) : Attribute :=
    { name := "title"
      opening := { value := " title=\"" }
      closing := { value := "\"" }
      segments := [{ lead := { value := "" }, value := { value := user } }] }
  { bodies :=
      [("page", .sequence
          [.ask (.setLayout "frame"), withUser fun user => .ask (.setInBag "title" user),
            .captureSection "side" (withUser fun user => .ask (.write user)) .done,
            .ask (.writeLiteral (.text "<a")), withUser fun user => .ask (.writeAttribute (title user)),
            .ask (.writeLiteral (.text ">")), .call .model fun model => .includeTemplate "card" model .place,
            .ask (.writeLiteral (.text "</a>"))]),
        ("card", withUser fun user => .ask (.write user)),
        ("frame", .sequence
          [.call .viewBag fun bag => .ask (.write ((bag.get? "title").getD .null)),
            .call .renderBody .place, .call (.renderSection "side" true) .place])] }

def profiles : Engine where
  defaultPipeline := some profile.pipeline
  resolver := some (.ofTable (.ofList
    [("page", { content := "page" }), ("card", { content := "card" }),
      ("frame", { content := "frame" })]))

def titled : Policy where
  admits _ := True
  hides name := name = "title"

def plainUser : Fields Value := .ofList [("user", .text "Ann")]

def hostileUser : Fields Value := .ofList [("user", .text "\"><script>'&")]

theorem outline_getD {value value' : Option Value}
    (same : value.map Value.outline = value'.map Value.outline) :
    (value.getD .null).outline = (value'.getD .null).outline := by
  cases value <;> cases value' <;>
    simp only [Option.map_none, Option.map_some, reduceCtorEq, Option.some.injEq] at same
  · rfl
  · exact same

theorem withUser_alike {next next' : Value → Body}
    (goes : ∀ user user', user.outline = user'.outline → (next user).Alike policy (next' user')) :
    (withUser next).Alike policy (withUser next') :=
  .call (.field "user") fun _ _ same => goes _ _ (outline_getD same)

theorem place_alike {result result' : Except TemplateError Producer}
    (same : result.map Producer.outline = result'.map Producer.outline) :
    (Body.place result).Alike policy (Body.place result') :=
  .orFail same fun _ _ outlines => .ask (.writeLiteral (Producer.toValue_verbatim outlines))

theorem profile_discreet {entry : String × Body} (member : entry ∈ profile.bodies) :
    entry.2.Discreet titled := by
  have shows : (withUser fun user => .ask (.write user)).Discreet titled :=
    withUser_alike fun _ _ same => .ask (.write (Value.written_of_outline same))
  simp only [profile, List.mem_cons, List.not_mem_nil, or_false] at member
  rcases member with rfl | rfl | rfl
  · refine Body.Discreet.sequence fun body member => ?_
    simp only [List.mem_cons, List.not_mem_nil, or_false] at member
    rcases member with rfl | rfl | rfl | rfl | rfl | rfl | rfl | rfl
    · exact .ask (.setLayout "frame")
    · exact withUser_alike fun _ _ same => .ask (.setInBag "title" same)
    · exact .captureSection "side" shows fun result => .done result
    · exact .ask (.writeLiteral (.same _))
    · refine withUser_alike fun user user' same => .ask (.writeAttribute ⟨rfl, rfl, rfl, ?_⟩)
      exact .cons ⟨rfl, rfl, Value.written_of_outline same, fun literal => nomatch literal⟩ .nil
    · exact .ask (.writeLiteral (.same _))
    · exact .call .model fun _ _ models =>
        .includeTemplate "card" models fun _ _ same => place_alike same
    · exact .ask (.writeLiteral (.same _))
  · exact shows
  · refine Body.Discreet.sequence fun body member => ?_
    simp only [List.mem_cons, List.not_mem_nil, or_false] at member
    rcases member with rfl | rfl | rfl
    · refine .call .viewBag fun bag bag' same => .ask (.write ?_)
      have titles := Fields.get?_of_outline same "title"
      have hidden : titled.view "title" = Value.outline := rfl
      rw [hidden] at titles
      exact Value.written_of_outline (outline_getD titles)
    · exact .call .renderBody fun _ _ same => place_alike same
    · exact .call (.renderSection "side" true) fun _ _ same => place_alike same

theorem profiles_discreet : profiles.Discreet titled :=
  discreet_of_static rfl rfl rfl (fun _ _ _ => trivial) fun _ => profile_discreet

/-- A user whose name holds tags and quotes is shown with the marks that any user is shown with. -/
theorem hostileUser_keeps_marks :
    profiles.Discreet titled ∧
    (profiles.start.cache.Holds fun artifact => artifact.loadable.Discreet titled) ∧
    plainUser.entries.map Prod.fst = hostileUser.entries.map Prod.fst ∧
    plainUser.OnlyTexts ∧ hostileUser.OnlyTexts ∧
    (profiles.run 3 "page" (.dynamic plainUser) .empty profiles.start).map (·.1.map marks) =
      some (.ok ['<', '"', '"', '>', '<', '>']) ∧
    (profiles.run 3 "page" (.dynamic hostileUser) .empty profiles.start).map (·.1.map marks) =
      some (.ok ['<', '"', '"', '>', '<', '>']) := by
  have cached : profiles.start.cache.Holds fun artifact => artifact.loadable.Discreet titled :=
    fun _ member => nomatch member
  have names : plainUser.entries.map Prod.fst = hostileUser.entries.map Prod.fst := rfl
  have texts : plainUser.OnlyTexts := fun entry member => by
    obtain rfl := List.mem_singleton.mp member
    exact ⟨_, rfl⟩
  have texts' : hostileUser.OnlyTexts := fun entry member => by
    obtain rfl := List.mem_singleton.mp member
    exact ⟨_, rfl⟩
  have shown : (profiles.run 3 "page" (.dynamic plainUser) .empty profiles.start).map
      (·.1.map marks) = some (.ok ['<', '"', '"', '>', '<', '>']) := by decide +kernel
  have kept := (renders_keep_marks profiles_discreet cached names texts texts' .empty 3).1 "page"
  exact ⟨profiles_discreet, cached, names, texts, texts', shown, kept.symm.trans shown⟩

end Engine

end Templating
