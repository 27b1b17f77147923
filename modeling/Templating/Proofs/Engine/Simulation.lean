import Templating.Proofs.Engine.Growth
import Templating.Proofs.Engine.Sources

/-!
One render in two engines that differ in their caches.

Two engines agree if they have the same pipelines, resolver and settings, those of the cache apart.
In sound sessions of agreeing engines a render takes the same steps: look-ups come to the same
instances, up to the numbers of their artifacts, which no body can see.  So a render that ends in
the one engine ends in the other with the same result.  The names that are looked up on the way must
not look like fingerprints; they are read off the journal of the render that is known to end.
-/

namespace Templating

/-- A body that does not ask its page to compile. -/
def Body.OnlyPage : Body → Prop
  | .done _ => True
  | .call callback next => (∀ input, callback ≠ .compile input) ∧ ∀ reply, (next reply).OnlyPage
  | .captureSection _ inner next => inner.OnlyPage ∧ ∀ result, (next result).OnlyPage
  | .includeTemplate _ _ next => ∀ result, (next result).OnlyPage

/-- All names that have been looked up are plain. -/
def Session.SoughtPlain (session : Session L) : Prop :=
  ∀ name ∈ Journal.sought session.journal.toList, PlainName name

instance (session : Session L) : Decidable session.SoughtPlain :=
  inferInstanceAs (Decidable (∀ name ∈ Journal.sought session.journal.toList, PlainName name))

theorem Session.SoughtPlain.of_extends {before after : Session L} (plain : after.SoughtPlain)
    (extends_ : after.Extends before) : before.SoughtPlain :=
  fun name member => plain name ((extends_.filterMap _).subset member)

theorem Session.SoughtPlain.name {session : Session L} {name : String}
    (plain : (session.record (.templateSought name)).SoughtPlain) : PlainName name :=
  plain name (by simp [record, Journal.sought])

namespace Engine

/-- The bodies that the pipelines of an engine hand back do not ask their pages to compile. -/
def OnlyPage (engine : Engine) : Prop :=
  ∀ fileName pipeline request body, engine.pipelineFor fileName = .ok pipeline →
    (pipeline.compile request).loadable = some body → body.OnlyPage

structure Agrees (first second : Engine) : Prop where
  pipelineFor : second.pipelineFor = first.pipelineFor
  options : second.options = first.options
  resolver : second.resolver = first.resolver
  debug : second.config.debug = first.config.debug
  encoding : second.config.encoding = first.config.encoding

variable {first second : Engine} {inputs : List CompileInput}

theorem Agrees.made (agrees : first.Agrees second) (input : CompileInput) :
    second.made input = first.made input := by
  have outcome : second.outcome input = first.outcome input := by
    simp only [Engine.outcome, agrees.pipelineFor, agrees.options]
  have create (artifact : Shared (Artifact Body)) :
      second.newInstance artifact .none = first.newInstance artifact .none := by
    simp only [newInstance, Instance.create, agrees.debug]
  simp only [Engine.made, outcome, create]

theorem Agrees.found (agrees : first.Agrees second) (name : String) :
    second.found name = first.found name := by
  have input : second.input? name = first.input? name := by
    simp only [input?, agrees.resolver]
  simp only [Engine.found, input, agrees.made]

/-- Two sessions, each sound for its engine. -/
structure Twins (first second : Engine) (inputs : List CompileInput)
    (left right : Session Body) : Prop where
  left : ∃ ledger, first.Sound inputs left ledger
  right : ∃ ledger, second.Sound inputs right ledger

theorem Twins.record {left right : Session Body} (twins : Twins first second inputs left right)
    (event event' : Event) :
    Twins first second inputs (left.record event) (right.record event') := by
  obtain ⟨⟨_, sound⟩, _, sound'⟩ := twins
  exact ⟨⟨_, sound.congr rfl⟩, _, sound'.congr rfl⟩

theorem eq_of_newInstance {engine : Engine} {artifact : Shared (Artifact Body)} {model : Model}
    {template : Instance} (made : engine.newInstance artifact model = .ok template) :
    template.artifact = artifact ∧ template.layout = none := by
  simp only [newInstance, Instance.create] at made
  split at made
  · contradiction
  · cases made
    exact ⟨rfl, rfl⟩

theorem artifact_of_newInstance {engine : Engine} {artifact : Shared (Artifact Body)} {model : Model}
    {template : Instance} (made : engine.newInstance artifact model = .ok template) :
    template.artifact = artifact :=
  (eq_of_newInstance made).1

/-- An instance without a model can be made of any template. -/
theorem exists_newInstance (engine : Engine) (artifact : Shared (Artifact Body)) :
    ∃ template, engine.newInstance artifact .none = .ok template ∧ template.artifact = artifact ∧
      template.layout = none := by
  unfold newInstance Instance.create ModelType.check
  split
  · next refuses => split at refuses <;> cases refuses
  · exact ⟨_, rfl, rfl, rfl⟩

theorem outcome_of_made {engine : Engine} {input : CompileInput} {template : Instance}
    (made : engine.made input = .ok template) :
    ∃ artifact, engine.outcome input = .ok artifact ∧ template.body = artifact.loadable := by
  simp only [Engine.made] at made
  split at made
  · contradiction
  · next artifact comes =>
      exact ⟨artifact, comes, by rw [Instance.body, artifact_of_newInstance made]⟩

theorem onlyPage_of_made (onlyPage : first.OnlyPage) {input : CompileInput} {template : Instance}
    (made : first.made input = .ok template) : template.body.OnlyPage := by
  obtain ⟨artifact, comes, same⟩ := outcome_of_made made
  obtain ⟨_, selected, compiles⟩ := compiled_of_outcome comes
  obtain ⟨_, _, _, request, handed⟩ := compileTemplate_eq_ok compiles
  rw [same]
  exact onlyPage _ _ _ _ selected handed

theorem onlyPage_of_found (onlyPage : first.OnlyPage) {name : String} {template : Instance}
    (found : first.found name = .ok (some template)) : template.body.OnlyPage := by
  simp only [Engine.found] at found
  split at found
  · simp at found
  · next input resolved =>
      cases made : first.made input with
      | error error => simp [made, Except.map] at found
      | ok made' =>
          simp only [made, Except.map, Except.ok.injEq, Option.some.injEq] at found
          exact found ▸ onlyPage_of_made onlyPage made

theorem Twins.findTemplate (agrees : first.Agrees second)
    (collisionFree : CompileInput.CollisionFree inputs) {left right left' : Session Body}
    (twins : Twins first second inputs left right) {name : String}
    {result : Except TemplateError (Option Instance)}
    (finds : first.findTemplate name left = some (result, left')) (plain : left'.SoughtPlain) :
    ∃ result' right', second.findTemplate name right = some (result', right') ∧
      result.map (Option.map Instance.unnumbered) = first.found name ∧
      result'.map (Option.map Instance.unnumbered) = first.found name ∧
      Twins first second inputs left' right' := by
  have isPlain := (plain.of_extends (findTemplate_extends finds)).name
  obtain ⟨⟨_, sound⟩, _, sound'⟩ := twins
  obtain ⟨_, _, _, finds', comes, after⟩ := sound.findTemplate collisionFree isPlain
  cases finds.symm.trans finds'
  obtain ⟨result', right', _, found', comes', after'⟩ := sound'.findTemplate collisionFree isPlain
  exact ⟨result', right', found', comes, comes'.trans (agrees.found name), ⟨_, after⟩, _, after'⟩

end Engine

def Page.within (page : Page) (session : Session Body) : Page :=
  { page with session }

section Render

variable {first second : Engine} {inputs : List CompileInput} {template template' : Instance}

theorem model_of_alike (alike : template'.unnumbered = template.unnumbered) :
    template'.model = template.model := by
  have same := congrArg Instance.model alike
  exact same

theorem layout_of_alike (alike : template'.unnumbered = template.unnumbered) :
    template'.layout = template.layout := by
  have same := congrArg Instance.layout alike
  exact same

theorem content_of_alike (alike : template'.unnumbered = template.unnumbered) :
    template'.artifact.content = template.artifact.content := by
  have same := congrArg (fun template => template.artifact.content) alike
  exact same

theorem name_of_alike (alike : template'.unnumbered = template.unnumbered) :
    template'.name = template.name := by
  rw [Instance.name, Instance.name, content_of_alike alike]

theorem body_of_alike (alike : template'.unnumbered = template.unnumbered) :
    template'.body = template.body := by
  rw [Instance.body, Instance.body, content_of_alike alike]

theorem Page.defineSection_twins {page : Page} {session : Session Body}
    (twins : Engine.Twins first second inputs page.session session) (name : String)
    (producer : Producer) :
    ∃ session', (page.within session).defineSection name producer =
        ((page.defineSection name producer).1,
          (page.defineSection name producer).2.within session') ∧
      Engine.Twins first second inputs (page.defineSection name producer).2.session session' := by
  simp only [Page.defineSection, Page.within]
  cases page.context.defineSection name producer with
  | error error => exact ⟨session, rfl, twins⟩
  | ok context => exact ⟨_, rfl, twins.record _ _⟩

theorem Page.answer_twins (agrees : first.Agrees second)
    (alike : template'.unnumbered = template.unnumbered) {callback : Callback}
    (pageOnly : ∀ input, callback ≠ .compile input) {page next : Page} {session : Session Body}
    (twins : Engine.Twins first second inputs page.session session) {reply : callback.Reply}
    (answers : page.answer first template callback = some (reply, next)) :
    ∃ session', (page.within session).answer second template' callback =
        some (reply, next.within session') ∧
      Engine.Twins first second inputs next.session session' := by
  have model : template'.model = template.model := model_of_alike alike
  have name : template'.name = template.name := name_of_alike alike
  cases callback with
  | compile input => exact (pageOnly input rfl).elim
  | write value | writeAttribute declared =>
      cases answers
      exact ⟨session, by simp [Page.answer, Page.within, agrees.encoding], twins⟩
  | model | field | typedModel =>
      cases answers
      exact ⟨session, by simp [Page.answer, Page.within, model], twins⟩
  | templateName =>
      cases answers
      exact ⟨session, by simp [Page.answer, Page.within, name], twins⟩
  | note text =>
      cases answers
      exact ⟨_, rfl, twins.record _ _⟩
  | renderBody =>
      simp only [Page.answer, Page.renderBody, Page.within] at answers ⊢
      split at answers <;> (cases answers; exact ⟨session, rfl, twins⟩)
  | defineSection sectionName producer =>
      obtain ⟨session', defines, twins'⟩ := Page.defineSection_twins twins sectionName producer
      have same : page.defineSection sectionName producer = (reply, next) :=
        Option.some.inj answers
      rw [same] at defines twins'
      exact ⟨session', congrArg some defines, twins'⟩
  | _ =>
      cases answers
      exact ⟨session, rfl, twins⟩

/-- What renders by name gives the same result in twin sessions. -/
def Includer.Twin (first second : Engine) (inputs : List CompileInput) (left right : Includer) :
    Prop :=
  ∀ name model bag session session' result after,
    Engine.Twins first second inputs session session' →
    left name model bag session = some (result, after) → after.SoughtPlain →
    ∃ after', right name model bag session' = some (result, after') ∧
      Engine.Twins first second inputs after after'

/-- What runs a chain gives the same result and context in twin sessions. -/
def Chain.Twin (first second : Engine) (inputs : List CompileInput) (left right : Chain) : Prop :=
  ∀ template template' context session session' rendered,
    template'.unnumbered = template.unnumbered → template.body.OnlyPage →
    Engine.Twins first second inputs session session' →
    left template context session = some rendered → rendered.session.SoughtPlain →
    ∃ after', right template' context session' = some { rendered with session := after' } ∧
      Engine.Twins first second inputs rendered.session after'

theorem Body.run_twins (agrees : first.Agrees second)
    (alike : template'.unnumbered = template.unnumbered) {left right : Includer}
    (grows : left.Grows) (twin : Includer.Twin first second inputs left right) (body : Body)
    (onlyPage : body.OnlyPage) {page final : Page} {session : Session Body}
    {result : Except TemplateError Unit}
    (twins : Engine.Twins first second inputs page.session session)
    (runs : body.run first template left page = some (result, final))
    (plain : final.session.SoughtPlain) :
    ∃ session', body.run second template' right (page.within session) =
        some (result, final.within session') ∧
      Engine.Twins first second inputs final.session session' := by
  induction body generalizing page final session result with
  | done =>
      cases runs
      exact ⟨session, rfl, twins⟩
  | call callback next ih =>
      simp only [Body.run] at runs ⊢
      split at runs
      · contradiction
      · next reply answered answers =>
          obtain ⟨session', answers', twins'⟩ :=
            Page.answer_twins agrees alike onlyPage.1 twins answers
          rw [answers']
          exact ih reply (onlyPage.2 reply) twins' runs plain
  | captureSection name inner next ihInner ih =>
      simp only [Body.run] at runs ⊢
      split at runs
      · next defined =>
          have defined' : (page.within session).context.isSectionDefined name = true := defined
          rw [if_pos defined']
          exact ih _ (onlyPage.2 _) twins runs plain
      · next undefined =>
          have undefined' : ¬ (page.within session).context.isSectionDefined name = true := undefined
          rw [if_neg undefined']
          -- The inner body starts with the page's session, and ends with the one that its result goes
          -- on with, so that the twins pass through.
          have entered : Engine.Twins first second inputs { page with output := "" }.session session :=
            twins
          split at runs
          · contradiction
          · next error inside ran =>
              have later := Body.run_extends grows _ runs
              obtain ⟨session', ran', left_⟩ :=
                ihInner onlyPage.1 entered ran (plain.of_extends later)
              have same : inner.run second template' right
                  { page.within session with output := "" } =
                    some (.error error, inside.within session') := ran'
              have twins' : Engine.Twins first second inputs
                  { inside with output := page.output }.session session' := left_
              rw [same]
              exact ih _ (onlyPage.2 _) twins' runs plain
          · next inside ran =>
              have later := Body.run_extends grows _ runs
              have kept := Page.defineSection_extends { inside with output := page.output } name
                (.rendered inside.output)
              obtain ⟨session', ran', left_⟩ :=
                ihInner onlyPage.1 entered ran (plain.of_extends (later.trans kept))
              have same : inner.run second template' right
                  { page.within session with output := "" } =
                    some (.ok (), inside.within session') := ran'
              have twins' : Engine.Twins first second inputs
                  { inside with output := page.output }.session session' := left_
              obtain ⟨session'', defines, twins''⟩ :=
                Page.defineSection_twins twins' name (.rendered inside.output)
              have same' : Page.defineSection
                  { inside.within session' with output := (page.within session).output } name
                    (.rendered (inside.within session').output) = _ := defines
              rw [same]
              simp only [same']
              exact ih _ (onlyPage.2 _) twins'' runs plain
  | includeTemplate name model next ih =>
      simp only [Body.run] at runs ⊢
      split at runs
      · contradiction
      · next included after ran =>
          have later := Body.run_extends grows _ runs
          obtain ⟨after', ran', twins'⟩ := twin _ _ _ _ _ _ _ twins ran (plain.of_extends later)
          have same : right name model (page.within session).context.viewBag
              (page.within session).session = some (included, after') := ran'
          have entered : Engine.Twins first second inputs (page.within after).session after' := twins'
          have ended := ih _ (onlyPage _) entered runs plain
          rw [same]
          exact ended

theorem bindModel_of_alike (alike : template'.unnumbered = template.unnumbered) (model : Model) :
    (template'.bindModel model).map Instance.unnumbered =
      (template.bindModel model).map Instance.unnumbered := by
  have modelType : template'.modelType = template.modelType := by
    rw [Instance.modelType, Instance.modelType, content_of_alike alike]
  simp only [Instance.bindModel, modelType]
  cases template.modelType.check model with
  | error error => rfl
  | ok =>
      have same := congrArg (fun template => { template with model := model : Instance }) alike
      exact congrArg Except.ok same

theorem body_of_bindModel {bound : Instance} {model : Model}
    (binds : template.bindModel model = .ok bound) : bound.body = template.body := by
  simp only [Instance.bindModel] at binds
  split at binds
  · contradiction
  · cases binds
    rfl

theorem error_of_alike {result result' : Except ε Instance} {error : ε}
    (same : result'.map Instance.unnumbered = result.map Instance.unnumbered)
    (failed : result = .error error) : result' = .error error := by
  subst failed
  cases result' with
  | error error' => exact congrArg Except.error (Except.error.inj same)
  | ok _ => cases same

theorem ok_of_alike {result result' : Except ε Instance}
    (same : result'.map Instance.unnumbered = result.map Instance.unnumbered)
    (succeeded : result = .ok template) :
    ∃ template', result' = .ok template' ∧ template'.unnumbered = template.unnumbered := by
  subst succeeded
  cases result' with
  | error _ => cases same
  | ok template' => exact ⟨template', rfl, Except.ok.inj same⟩

namespace Engine

theorem runInstance_twins {left right : Chain} (twin : Chain.Twin first second inputs left right)
    (alike : template'.unnumbered = template.unnumbered) (onlyPage : template.body.OnlyPage)
    {model : Model} {context : Context} {session session' : Session Body} {rendered : Rendered}
    (twins : Twins first second inputs session session')
    (runs : runInstance left template model context session = some rendered)
    (plain : rendered.session.SoughtPlain) :
    ∃ after', runInstance right template' model context session' =
        some { rendered with session := after' } ∧
      Twins first second inputs rendered.session after' := by
  have same := bindModel_of_alike alike model
  unfold runInstance at runs ⊢
  split at runs
  · next error failed =>
      cases runs
      rw [error_of_alike same failed]
      exact ⟨session', rfl, twins⟩
  · next bound binds =>
      obtain ⟨bound', binds', alike'⟩ := ok_of_alike same binds
      obtain ⟨inner, ran, rfl⟩ := Option.map_eq_some_iff.mp runs
      have onlyPage' : bound.body.OnlyPage := (body_of_bindModel binds).symm ▸ onlyPage
      obtain ⟨after', ran', twins'⟩ :=
        twin _ _ _ _ _ _ alike' onlyPage' twins ran plain
      simp only [binds', ran', Option.map_some]
      exact ⟨after', rfl, twins'⟩

/-- Names are looked up with the same outcome in twin sessions, and what is found asks its page for
nothing but its callbacks. -/
theorem Twins.look (agrees : first.Agrees second) (onlyPage : first.OnlyPage)
    (collisionFree : CompileInput.CollisionFree inputs) {left right left' : Session Body}
    (twins : Twins first second inputs left right) {name : String}
    {result : Except TemplateError (Option Instance)}
    (finds : first.findTemplate name left = some (result, left')) (plain : left'.SoughtPlain) :
    ∃ right', Twins first second inputs left' right' ∧
      match result with
      | .error error => second.findTemplate name right = some (.error error, right')
      | .ok none => second.findTemplate name right = some (.ok none, right')
      | .ok (some template) => template.body.OnlyPage ∧ ∃ template',
          template'.unnumbered = template.unnumbered ∧
          second.findTemplate name right = some (.ok (some template'), right') := by
  obtain ⟨result', right', finds', comes, comes', twins'⟩ :=
    twins.findTemplate agrees collisionFree finds plain
  refine ⟨right', twins', ?_⟩
  have same := comes'.trans comes.symm
  rcases result with error | _ | template <;> rcases result' with error' | _ | template' <;>
    simp only [Except.map, Option.map_none, Option.map_some, reduceCtorEq, Except.ok.injEq,
      Except.error.injEq, Option.some.injEq] at same
  · rw [finds', same]
  · exact finds'
  · have isPage : template.unnumbered.body.OnlyPage := onlyPage_of_found onlyPage comes.symm
    exact ⟨isPage, template', same, finds'⟩

theorem runNamed_twins (agrees : first.Agrees second) (onlyPage : first.OnlyPage)
    (collisionFree : CompileInput.CollisionFree inputs) {left right : Chain} (grows : left.Grows)
    (twin : Chain.Twin first second inputs left right) :
    Includer.Twin first second inputs (first.runNamed left) (second.runNamed right) := by
  intro name model bag session session' result after twins runs plain
  unfold runNamed at runs
  split at runs
  · contradiction
  · next error looked finds =>
      cases runs
      obtain ⟨after', twins', finds'⟩ := twins.look agrees onlyPage collisionFree finds plain
      exact ⟨after', by simp only [runNamed, finds'], twins'⟩
  · next looked finds =>
      cases runs
      obtain ⟨after', twins', finds'⟩ := twins.look agrees onlyPage collisionFree finds plain
      exact ⟨after', by simp only [runNamed, finds'], twins'⟩
  · next template looked finds =>
      obtain ⟨rendered, ran, same⟩ := Option.map_eq_some_iff.mp runs
      cases same
      have plain' := plain.of_extends (runInstance_extends grows ran)
      obtain ⟨looked', twins', isPage, template', alike, finds'⟩ :=
        twins.look agrees onlyPage collisionFree finds plain'
      obtain ⟨after', ran', twins''⟩ := runInstance_twins twin alike isPage twins' ran plain
      exact ⟨after', by simp only [runNamed, finds', ran', Option.map_some], twins''⟩

theorem layoutOf_twins (agrees : first.Agrees second) (onlyPage : first.OnlyPage)
    (collisionFree : CompileInput.CollisionFree inputs)
    (alike : template'.unnumbered = template.unnumbered) {layout : String}
    {session session' after : Session Body} (twins : Twins first second inputs session session')
    {result : Except TemplateError Instance}
    (looks : first.layoutOf template layout session = some (result, after))
    (plain : after.SoughtPlain) :
    ∃ result' after', second.layoutOf template' layout session' = some (result', after') ∧
      result'.map Instance.unnumbered = result.map Instance.unnumbered ∧
      (∀ next, result = .ok next → next.body.OnlyPage) ∧
      Twins first second inputs after after' := by
  unfold layoutOf at looks
  split at looks
  · contradiction
  · next error looked finds =>
      cases looks
      obtain ⟨after', twins', finds'⟩ := twins.look agrees onlyPage collisionFree finds plain
      exact ⟨_, after', by simp only [layoutOf, finds'], rfl, fun _ found => (nomatch found), twins'⟩
  · next looked finds =>
      cases looks
      obtain ⟨after', twins', finds'⟩ := twins.look agrees onlyPage collisionFree finds plain
      exact ⟨_, after', by simp only [layoutOf, finds'], rfl, fun _ found => (nomatch found), twins'⟩
  · next next looked finds =>
      cases looks
      obtain ⟨after', twins', isPage, next', alike', finds'⟩ :=
        twins.look agrees onlyPage collisionFree finds plain
      refine ⟨(next'.bindModel template.model).mapError .usage, after', ?_, ?_, ?_, twins'⟩
      · simp only [layoutOf, finds', model_of_alike alike]
      · have same := bindModel_of_alike alike' template.model
        cases bound : next.bindModel template.model with
        | error error => rw [error_of_alike same bound]
        | ok found =>
            obtain ⟨found', bound', alike''⟩ := ok_of_alike same bound
            rw [bound']
            exact congrArg Except.ok alike''
      · intro found bound
        cases binds : next.bindModel template.model with
        | error error => rw [binds] at bound; cases bound
        | ok found =>
            rw [binds] at bound
            cases bound
            exact (body_of_bindModel binds).symm ▸ isPage

theorem runBody_twins (agrees : first.Agrees second) (onlyPage : first.OnlyPage)
    (collisionFree : CompileInput.CollisionFree inputs) {bound : Nat}
    (twin : Chain.Twin first second inputs (first.chain bound) (second.chain bound))
    (alike : template'.unnumbered = template.unnumbered) (isPage : template.body.OnlyPage)
    {context : Context} {session session' : Session Body}
    (twins : Twins first second inputs session session') {result : Except TemplateError Unit}
    {page : Page} (ran : first.runBody bound template context session = some (result, page))
    (plain : page.session.SoughtPlain) :
    ∃ after', second.runBody bound template' context session' =
        some (result, page.within after') ∧
      Twins first second inputs page.session after' := by
  have grows := first.chain_grows bound
  have includes := runNamed_twins agrees onlyPage collisionFree grows twin
  have start : Page.start template' { context with state := .executing } session' =
      (Page.start template { context with state := .executing } session).within session' := by
    simp only [Page.start, Page.within, layout_of_alike alike]
  rw [runBody, body_of_alike alike, start]
  exact Body.run_twins agrees alike (runNamed_grows first grows) includes _ isPage twins ran plain

/-- Chains of agreeing engines come to the same in twin sessions, however deep they go. -/
theorem chain_twins (agrees : first.Agrees second) (onlyPage : first.OnlyPage)
    (collisionFree : CompileInput.CollisionFree inputs) (bound : Nat) :
    Chain.Twin first second inputs (first.chain bound) (second.chain bound) := by
  induction bound with
  | zero => exact fun _ _ _ _ _ _ _ _ _ runs => nomatch runs
  | succ bound ih =>
      intro template template' context session session' rendered alike isPage twins runs plain
      have body {result page} (ran : first.runBody bound template context session =
          some (result, page)) (plain : page.session.SoughtPlain) :=
        runBody_twins agrees onlyPage collisionFree ih alike isPage twins ran plain
      cases chain_succ_eq_some_iff.mp runs with
      | failed ran =>
          obtain ⟨after', ran', twins'⟩ := body ran plain
          exact ⟨after', chain_succ_eq_some_iff.mpr (.failed ran'), twins'⟩
      | ended ran ends =>
          obtain ⟨after', ran', twins'⟩ := body ran plain
          exact ⟨after', chain_succ_eq_some_iff.mpr (.ended ran' ends), twins'⟩
      | @astray page layout error looked ran names looks =>
          have named := plain.of_extends (layoutOf_extends looks)
          have ended := named.of_extends
            ((Session.record_extends _ _).trans (Session.record_extends _ _))
          obtain ⟨chained', ran', twins'⟩ := body ran ended
          obtain ⟨result', after', looks', same, _, twins''⟩ := layoutOf_twins agrees onlyPage
            collisionFree alike (twins'.record _ (.layoutChained template'.name layout)) looks plain
          rw [error_of_alike same rfl] at looks'
          have link : second.Link bound template' context session'
              ⟨.error error, (page.within chained').chained, after'⟩ := .astray ran' names looks'
          exact ⟨after', chain_succ_eq_some_iff.mpr link, twins''⟩
      | @linked page layout next looked _ ran names looks goes =>
          have plain' := plain.of_extends (chain_grows first bound _ _ _ _ goes)
          have named := plain'.of_extends (layoutOf_extends looks)
          have ended := named.of_extends
            ((Session.record_extends _ _).trans (Session.record_extends _ _))
          obtain ⟨chained', ran', twins'⟩ := body ran ended
          obtain ⟨result', after', looks', same, isPage', twins''⟩ := layoutOf_twins agrees onlyPage
            collisionFree alike (twins'.record _ (.layoutChained template'.name layout)) looks plain'
          obtain ⟨next', rfl, alike'⟩ := ok_of_alike same rfl
          obtain ⟨final', goes', twins⟩ := ih _ _ _ _ _ _ alike' (isPage' _ rfl) twins'' goes plain
          exact ⟨final', chain_succ_eq_some_iff.mpr (.linked ran' names looks' goes'), twins⟩

end Engine
end Render
end Templating
