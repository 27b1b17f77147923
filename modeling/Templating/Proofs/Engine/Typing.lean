import Templating.Proofs.Engine.Filling
import Templating.Proofs.Engine.Turns

/-!
The models that templates run with.

A chain hands the model that it is given from template to template, and each template checks it before
its body runs.  So no body runs with a model that its template was not compiled for, and a layout that
does not take the model ends the chain.  A text that is parsed is compiled for the type of its model.
-/

namespace Templating

open Relation (ReflTransGen)

namespace Engine

variable {engine : Engine} {root turn next layout start first : Turn} {model given : Model}

theorem Follows.takes (follows : engine.Follows turn next) :
    next.template.model = turn.template.model ∧
      next.template.modelType.Takes turn.template.model := by
  obtain ⟨layout, _, binds⟩ := follows
  obtain ⟨takes, rfl⟩ := Turn.bind_eq_ok_iff.mp binds
  exact ⟨rfl, takes⟩

theorem Executed.takes (executed : engine.Executed root model turn given) :
    turn.template.model = given ∧ turn.template.modelType.Takes given := by
  induction executed with
  | root binds | included _ _ binds =>
      obtain ⟨takes, rfl⟩ := Turn.bind_eq_ok_iff.mp binds
      exact ⟨rfl, takes⟩
  | layout _ follows ih =>
      obtain ⟨same, _⟩ := ih
      obtain ⟨same', takes⟩ := follows.takes
      exact ⟨same'.trans same, same ▸ takes⟩

theorem executed_of_turns (binds : start.bind model = .ok first)
    (turns : ReflTransGen engine.Follows first turn) : engine.Executed start model turn model := by
  induction turns with
  | refl => exact .root binds
  | tail _ follows ih => exact .layout ih follows

/-- A layout that does not take the model has no turn, and the chain that has found it fails. -/
theorem HandsOn.refused (hands : engine.HandsOn turn layout)
    (refuses : ¬ layout.template.modelType.Takes turn.template.model) :
    (∀ next, ¬ engine.Follows turn next) ∧
      ∃ bound, engine.chain bound turn.template turn.context turn.session =
        some ⟨.error (.usage (.modelTypeMismatch layout.template.modelType.name
          turn.template.model.modelType.name)), layout.context, layout.session⟩ := by
  constructor
  · rintro next ⟨other, hands', binds⟩
    cases hands.unique hands'
    exact refuses (Turn.bind_eq_ok_iff.mp binds).1
  · obtain ⟨bound, page, name, ran, names, chained, finds⟩ := hands
    have looks : engine.layoutOf turn.template name
        (page.session.record (.layoutChained turn.template.name name)) =
          some (.error (.usage (.modelTypeMismatch layout.template.modelType.name
            turn.template.model.modelType.name)), layout.session) := by
      have binds := Instance.bindModel_eq_error_iff.mpr ⟨refuses, rfl⟩
      simp only [layoutOf, finds, binds, mapError_error]
    exact ⟨bound + 1, chain_succ_eq_some_iff.mpr (chained ▸ .astray ran names looks)⟩

theorem render_of_binds {bound : Nat} (binds : start.bind model = .ok first) :
    engine.render bound start.template model start.context start.session =
      (engine.chain bound first.template first.context first.session).map Rendered.finish := by
  obtain ⟨takes, rfl⟩ := Turn.bind_eq_ok_iff.mp binds
  have accepted := Instance.bindModel_eq_ok_iff.mpr ⟨takes, rfl⟩
  simp only [render, runInstance, accepted]

/-- What holds of the models of a chain that starts with a template and is given a model. -/
structure FitsModel (engine : Engine) (start : Turn) (model : Model) : Prop where
  /-- Every template of the chain has its turn with the model that the chain is given, and takes it. -/
  turns : ∀ first turn, start.bind model = .ok first → ReflTransGen engine.Follows first turn →
    turn.template.model = model ∧ turn.template.modelType.Takes model
  /-- The legs of a render that has come to an end are turns of the chain, with all their includes. -/
  legs : ∀ bound legs acts rendered,
    engine.Executes bound start.template model start.context start.session legs acts rendered →
    ∀ leg ∈ legs, ∃ turn, engine.Executed start model turn model ∧ leg.template = turn.template ∧
      leg.opening = turn.opening ∧
      ∃ depth, ∀ name passed reply, .includeTemplate name passed reply ∈ leg.acts →
        ∃ now next, turn.template.body.Visits engine turn.template
          (engine.runNamed (engine.chain depth)) turn.opening (.includeTemplate name passed next) now
  /-- A first template that does not take the model is not run. -/
  refused : ¬ start.template.modelType.Takes model → ∀ bound,
    engine.render bound start.template model start.context start.session =
      some ⟨.error (.usage (.modelTypeMismatch start.template.modelType.name model.modelType.name)),
        start.context, start.session⟩
  /-- The first layout that does not take the model has no turn, and ends the chain where it is found. -/
  mismatch : ∀ first turn layout, start.bind model = .ok first →
    ReflTransGen engine.Follows first turn → engine.HandsOn turn layout →
    ¬ layout.template.modelType.Takes model →
    (∀ next, ¬ engine.Follows turn next) ∧
      ∃ bound rendered,
        engine.render bound start.template model start.context start.session = some rendered ∧
        rendered.result = .error (.usage
          (.modelTypeMismatch layout.template.modelType.name model.modelType.name)) ∧
        rendered.session = layout.session

theorem fitsModel (engine : Engine) (start : Turn) (model : Model) : engine.FitsModel start model where
  turns _ _ binds turns := (executed_of_turns binds turns).takes
  legs bound legs acts rendered executes := by
    cases executes with
    | refused => simp
    | @ran root _ _ binds course =>
        intro leg member
        obtain ⟨turn, turns, depth, isLeg⟩ := course.turns leg member
        obtain ⟨takes, rfl⟩ := Instance.bindModel_eq_ok_iff.mp binds
        refine ⟨turn, executed_of_turns (Turn.bind_eq_ok_iff.mpr ⟨takes, rfl⟩) turns, isLeg.runs,
          isLeg.opening, depth, fun name passed reply included => ?_⟩
        have trace := isLeg.trace
        rw [isLeg.opening] at trace
        exact trace.visits included
  refused refuses bound := by
    have binds := Instance.bindModel_eq_error_iff.mpr ⟨refuses, rfl⟩
    simp only [render, runInstance, binds]
  mismatch first turn layout binds turns hands refuses := by
    obtain ⟨same, _⟩ := (executed_of_turns binds turns).takes
    obtain ⟨last, bound, goes⟩ := hands.refused (same ▸ refuses)
    refine ⟨last, ?_⟩
    obtain ⟨larger, ran⟩ := chain_of_turns turns goes
    exact ⟨larger, _, by rw [render_of_binds binds, ran]; rfl, by rw [same]; rfl, rfl⟩

theorem error_of_compile {input : CompileInput} {session after : Session Body} {error : TemplateError}
    (compiles : engine.compile input session = some (.error error, after)) :
    engine.compileArtifact input session = some (.error error, after) := by
  unfold compile at compiles
  split at compiles
  · contradiction
  · next ran =>
      cases compiles
      exact ran
  · next artifact left ran =>
      obtain ⟨fails, _⟩ := Prod.mk.inj (Option.some.inj compiles)
      obtain ⟨_, made, _⟩ := engine.exists_newInstance artifact
      cases fails.symm.trans made

theorem takes_own_type (model : Model) : model.modelType.Takes model := by
  cases model with
  | none => exact .inr (.inl rfl)
  | typed typed => exact .inr (.inr ⟨typed, rfl, rfl⟩)
  | dynamic fields => exact .inl (by simp [Model.modelType, ModelType.isDynamic])

/-- A text is compiled for the type of the model that it is parsed with, and takes the model. -/
theorem Filled.parse {inputs : List CompileInput} {session after : Session Body} {content : String}
    {template : Instance} (filled : engine.Filled inputs session)
    (collisionFree : CompileInput.CollisionFree ({ content, modelType := model.modelType } :: inputs))
    (compiles : engine.compile { content, modelType := model.modelType } session =
      some (.ok template, after)) :
    ∃ bound, template.bindModel model = .ok bound ∧ ∀ depth bag,
      engine.parse depth content model bag session =
        (engine.chain depth bound (.withViewBag bag) after).map fun ended =>
          (ended.result, ended.session) := by
  have own := filled.modelType collisionFree compiles
  have binds := Instance.bindModel_eq_ok_iff.mpr
    ⟨(own ▸ takes_own_type model : template.modelType.Takes model), rfl⟩
  refine ⟨_, binds, fun depth bag => ?_⟩
  simp only [Engine.parse, compiles, render, runInstance, binds, Option.map_map]
  rfl

end Engine

theorem Instance.rebind_eq (template : Instance) (model : Model) :
    (template.modelType.Takes model ∧ template.rebind model = (.ok (), { template with model })) ∨
      (¬ template.modelType.Takes model ∧ template.rebind model =
        (.error (.modelTypeMismatch template.modelType.name model.modelType.name), template)) := by
  by_cases takes : template.modelType.Takes model
  · have binds := Instance.bindModel_eq_ok_iff.mpr ⟨takes, rfl⟩
    exact .inl ⟨takes, by simp only [rebind, binds]⟩
  · have binds := Instance.bindModel_eq_error_iff.mpr ⟨takes, rfl⟩
    exact .inr ⟨takes, by simp only [rebind, binds]⟩

namespace Engine

/-- Every template that is run, in a chain of its own or in one that a body includes, is run with the
model that the chain is given and takes it, and the first that does not take it ends the chain.  A text
that is parsed takes the model that it is parsed with, whatever the engine has cached before.  A model
that is refused leaves the one that an instance has. -/
theorem models_fit_templates (engine : Engine) :
    (∀ root model, engine.FitsModel root model ∧
      ∀ turn given, engine.Executed root model turn given →
        turn.template.model = given ∧ turn.template.modelType.Takes given ∧
        ∀ name passed inner, engine.Enters turn name passed inner → engine.FitsModel inner passed) ∧
    (∀ inputs session, engine.Filled inputs session →
      (∀ call after, engine.serve session call = some after →
        ∃ more, engine.Filled (more ++ inputs) after) ∧
      ∀ content model,
        CompileInput.CollisionFree ({ content, modelType := model.modelType } :: inputs) →
        (∀ error after,
          engine.compile { content, modelType := model.modelType } session =
              some (.error error, after) →
          engine.compileArtifact { content, modelType := model.modelType } session =
              some (.error error, after)) ∧
        ∀ template after,
          engine.compile { content, modelType := model.modelType } session =
              some (.ok template, after) →
          ∃ root, template.bindModel model = .ok root ∧ ∀ bound bag,
            engine.parse bound content model bag session =
              (engine.chain bound root (.withViewBag bag) after).map fun ended =>
                (ended.result, ended.session)) ∧
    ∀ (template : Instance) (model : Model),
      (template.modelType.Takes model ∧ template.rebind model = (.ok (), { template with model })) ∨
        (¬ template.modelType.Takes model ∧ template.rebind model =
          (.error (.modelTypeMismatch template.modelType.name model.modelType.name), template)) := by
  refine ⟨fun root model => ⟨engine.fitsModel root model, fun turn given executed => ?_⟩,
    fun inputs session filled => ⟨fun _ _ => filled.serve, fun content model collisionFree => ?_⟩,
    Instance.rebind_eq⟩
  · exact ⟨executed.takes.1, executed.takes.2, fun _ passed inner _ => engine.fitsModel inner passed⟩
  · exact ⟨fun _ _ => error_of_compile, fun _ _ => filled.parse collisionFree⟩

/-- A page for numbers in a frame for texts. -/
def typedPages : Engine where
  defaultPipeline := some (StaticPipeline.pipeline
    { bodies := [("page", .ask (.setLayout "frame")), ("frame", .text "framed")] })
  resolver := some (.ofTable (.ofList
    [("page", { content := "page", modelType := ⟨"i64"⟩ }),
      ("frame", { content := "frame", modelType := ⟨"string"⟩ })]))

def number : Model := .typed ⟨⟨"i64"⟩, .int 3⟩

/-- The turn of the page, without a model. -/
def numberPage : Turn where
  template :=
    let content := { (Instance.ofBody "page" (.ask (.setLayout "frame"))).artifact.content with
      modelType := ⟨"i64"⟩ }
    { artifact := ⟨0, content⟩ }
  context := {}
  session := typedPages.start

def boundPage : Turn :=
  { numberPage with template := { numberPage.template with model := number } }

theorem boundPage_handsOn : ∃ layout, typedPages.HandsOn boundPage layout ∧
    layout.template.modelType = ⟨"string"⟩ := by
  have evaluated : ((typedPages.runBody 0 boundPage.template boundPage.context boundPage.session).any
      fun ended => ended.1.isOk && (decide (ended.2.layout = some "frame") &&
        (typedPages.findTemplate "frame" (ended.2.session.record (.layoutChained "page" "frame"))).any
          fun found => found.1.toOption.join.any fun layout =>
            decide (layout.modelType = ⟨"string"⟩))) = true := by decide +kernel
  obtain ⟨⟨result, page⟩, ran, evaluated⟩ := (Option.any_eq_true _ _).mp evaluated
  obtain ⟨succeeds, evaluated⟩ := Bool.and_eq_true_iff.mp evaluated
  obtain ⟨names, evaluated⟩ := Bool.and_eq_true_iff.mp evaluated
  obtain ⟨⟨found, after⟩, finds, evaluated⟩ := (Option.any_eq_true _ _).mp evaluated
  obtain ⟨layout, isFound, modelType⟩ := (Option.any_eq_true _ _).mp evaluated
  cases result with
  | error error => simp [Except.isOk, Except.toBool] at succeeds
  | ok =>
      have same : found = .ok (some layout) := by
        cases found <;> simp_all [Except.toOption]
      subst same
      exact ⟨⟨layout, page.chained, after⟩,
        ⟨0, page, "frame", ran, of_decide_eq_true names, rfl, finds⟩, of_decide_eq_true modelType⟩

def frameInput : CompileInput :=
  { name := some "frame", content := "frame", modelType := ⟨"string"⟩ }

theorem frame_compiles_twice : ∃ result used template after,
    typedPages.compileArtifact frameInput typedPages.start = some (result, used) ∧
      typedPages.compile { content := "frame", modelType := number.modelType } used =
        some (.ok template, after) := by
  have evaluated : ((typedPages.compileArtifact frameInput typedPages.start).any fun (_, used) =>
      (typedPages.compile { content := "frame", modelType := number.modelType } used).any
        fun (made, _) => made.isOk) = true := by decide +kernel
  obtain ⟨⟨result, used⟩, compiles, evaluated⟩ := (Option.any_eq_true _ _).mp evaluated
  obtain ⟨⟨made, after⟩, compiles', succeeds⟩ := (Option.any_eq_true _ _).mp evaluated
  cases made with
  | error error => simp [Except.isOk, Except.toBool] at succeeds
  | ok template => exact ⟨result, used, template, after, compiles, compiles'⟩

theorem numberPage_fits :
    (∃ bound rendered, typedPages.render bound numberPage.template number {} typedPages.start =
        some rendered ∧
      rendered.result = .error (.usage (.modelTypeMismatch "string" "i64"))) ∧
    typedPages.render 1 numberPage.template (.dynamic .empty) {} typedPages.start =
      some ⟨.error (.usage (.modelTypeMismatch "i64" "dynamic")), {}, typedPages.start⟩ ∧
    (∃ used template after, typedPages.Filled [frameInput] used ∧
      typedPages.compile { content := "frame", modelType := number.modelType } used =
        some (.ok template, after) ∧ ∃ root, template.bindModel number = .ok root) := by
  obtain ⟨fits, parses, _⟩ := models_fit_templates typedPages
  have binds : numberPage.bind number = .ok boundPage := rfl
  refine ⟨?mismatch, ?refused, ?parse⟩
  case mismatch =>
    obtain ⟨layout, hands, modelType⟩ := boundPage_handsOn
    have refuses : ¬ layout.template.modelType.Takes number := by
      simp [modelType, ModelType.Takes, ModelType.isDynamic, ModelType.dynamic, number]
    obtain ⟨_, bound, rendered, renders, fails, _⟩ :=
      (fits numberPage number).1.mismatch boundPage boundPage layout binds .refl hands refuses
    exact ⟨bound, rendered, renders, by rw [fails, modelType]; rfl⟩
  case refused =>
    refine (fits numberPage (.dynamic .empty)).1.refused ?_ 1
    simp [numberPage, Instance.modelType, ModelType.Takes, ModelType.isDynamic, ModelType.dynamic]
  case parse =>
    obtain ⟨result, used, template, after, compiles, compiles'⟩ := frame_compiles_twice
    have filled : typedPages.Filled [frameInput] used := .artifact .start compiles
    have collisionFree : CompileInput.CollisionFree
        [{ content := "frame", modelType := number.modelType }, frameInput] := by
      unfold CompileInput.CollisionFree
      decide +kernel
    obtain ⟨root, binds, _⟩ :=
      ((parses _ _ filled).2 "frame" number collisionFree).2 template after compiles'
    exact ⟨used, template, after, filled, compiles', root, binds⟩

end Engine
end Templating
