import Templating.Proofs.Engine.Upkeep

/-!
Journals only grow.

Whatever compiles, looks up or renders adds to the journal of its session and takes nothing out, so
that what has happened on the way can be read off the journal at the end.
-/

namespace Templating

namespace Session

variable {L : Type u} {ρ : Type v} {session before after : Session L}

/-- The journal of a session goes on that of another. -/
def Extends (after before : Session L) : Prop :=
  before.journal.toList <+: after.journal.toList

theorem Extends.refl (session : Session L) : session.Extends session :=
  List.prefix_refl _

theorem Extends.trans {last : Session L} (later : last.Extends after)
    (sooner : after.Extends before) : last.Extends before :=
  List.IsPrefix.trans sooner later

theorem extends_of_journal (same : after.journal = before.journal) : after.Extends before := by
  unfold Extends
  exact same ▸ List.prefix_refl _

theorem record_extends (session : Session L) (event : Event) :
    (session.record event).Extends session := by
  simp [Extends, record]

theorem recordAll_extends (session : Session L) (events : List Event) :
    (session.recordAll events).Extends session := by
  induction events generalizing session with
  | nil => exact .refl session
  | cons event rest ih => exact (ih (session.record event)).trans (session.record_extends event)

theorem acquire_extends {key : String} {fingerprint : Fingerprint} {acquired : Acquired L}
    (acquires : session.acquire key fingerprint = some (acquired, after)) :
    after.Extends session := by
  simp only [acquire] at acquires
  split at acquires
  · contradiction
  · split at acquires
    · cases acquires
      exact extends_of_journal rfl
    · split at acquires
      · cases acquires
        exact record_extends _ _
      · cases acquires
        exact record_extends _ _
      · cases acquires
        exact extends_of_journal rfl

theorem settle_extends (session : Session L) (slot : SlotId) (key : String)
    (fingerprint : Fingerprint) (outcome : Except TemplateError (Artifact L)) :
    (session.settle slot key fingerprint outcome).2.Extends session := by
  have settled : (session.settleSlot slot key fingerprint outcome).2.Extends session := by
    cases outcome with
    | ok artifact => exact record_extends _ _
    | error error => exact record_extends session _
  exact (recordAll_extends _ _).trans settled

theorem obtain_extends {key : String} {fingerprint : Fingerprint}
    {compile : Session L → Option (Except TemplateError (Artifact L) × ρ × Session L)}
    {answer : Except TemplateError (Shared (Artifact L)) × Option ρ}
    (compiles : ∀ held outcome report compiled,
      compile held = some (outcome, report, compiled) → compiled.Extends held)
    (obtains : session.obtain key fingerprint compile = some (answer, after)) :
    after.Extends session := by
  unfold obtain at obtains
  split at obtains
  · contradiction
  · contradiction
  · next result answered acquires =>
      cases obtains
      exact acquire_extends acquires
  · next slot held acquires =>
      split at obtains
      · contradiction
      · next outcome report compiled ran =>
          cases obtains
          exact (settle_extends _ _ _ _ _).trans
            ((compiles _ _ _ _ ran).trans (acquire_extends acquires))

theorem getOrCompile_extends {pipeline : Pipeline L} {input : CompileInput}
    {options : PipelineOptions} {result : Except TemplateError (Shared (Artifact L))}
    (compiles : session.getOrCompile pipeline input options = some (result, after)) :
    after.Extends session := by
  simp only [getOrCompile, Option.map_eq_some_iff] at compiles
  obtain ⟨⟨answer, final⟩, obtains, same⟩ := compiles
  cases same
  refine obtain_extends ?_ obtains
  intro held outcome report compiled ran
  cases ran
  exact recordAll_extends _ _

theorem get_extends {key : String} {artifact : Option (Shared (Artifact L))}
    (gets : session.get key = some (artifact, after)) : after.Extends session := by
  simp only [get] at gets
  split at gets
  · cases gets
    exact .refl _
  · split at gets
    · contradiction
    · cases gets
      exact extends_of_journal rfl

theorem remove_extends (session : Session L) (key : String) :
    (session.remove key).2.Extends session := by
  unfold remove
  split <;> exact extends_of_journal rfl

end Session

open Session

variable {engine : Engine} {session after : Session Body}

theorem Engine.keeps_extends (engine : Engine) (base : Session Body) :
    engine.Keeps fun session => session.Extends base where
  record _ grown := (record_extends _ _).trans grown
  artifact grown compiles := by
    unfold compileArtifact at compiles
    split at compiles
    · cases compiles
      exact grown
    · exact (getOrCompile_extends compiles).trans grown
  get grown gets := (get_extends gets).trans grown

/-- What renders a template by name only adds to the journal. -/
def Includer.Grows (includer : Includer) : Prop :=
  ∀ name model bag session result after,
    includer name model bag session = some (result, after) → after.Extends session

/-- What runs a chain only adds to the journal. -/
def Chain.Grows (chain : Chain) : Prop :=
  ∀ template context session rendered,
    chain template context session = some rendered → rendered.session.Extends session

theorem Includer.Grows.keeps {includer : Includer} (grows : includer.Grows) (base : Session Body) :
    includer.Keeps fun session => session.Extends base :=
  fun _ _ _ _ _ _ grown runs => (grows _ _ _ _ _ _ runs).trans grown

theorem Chain.Grows.keeps {chain : Chain} (grows : chain.Grows) (base : Session Body) :
    chain.Keeps fun session => session.Extends base :=
  fun _ _ _ _ grown runs => (grows _ _ _ _ runs).trans grown

theorem Page.defineSection_extends (page : Page) (name : String) (producer : Producer) :
    (page.defineSection name producer).2.session.Extends page.session :=
  (Engine.keeps_extends {} page.session).defineSection (.refl _) name producer

theorem Body.run_extends {template : Instance} {includer : Includer} (grows : includer.Grows)
    (body : Body) {page final : Page} {result : Except TemplateError Unit}
    (runs : body.run engine template includer page = some (result, final)) :
    final.session.Extends page.session :=
  (engine.keeps_extends page.session).body (grows.keeps _) body (.refl _) runs

namespace Engine

variable {name : String} {chain : Chain}

/-- A look-up leaves the name that was looked up in the journal. -/
theorem findTemplate_extends {result : Except TemplateError (Option Instance)}
    (finds : engine.findTemplate name session = some (result, after)) :
    after.Extends (session.record (.templateSought name)) :=
  (engine.keeps_extends _).findTemplate (.refl _) finds

theorem runInstance_extends (grows : chain.Grows) {template : Instance} {model : Model}
    {context : Context} {rendered : Rendered}
    (runs : runInstance chain template model context session = some rendered) :
    rendered.session.Extends session :=
  Keeps.runInstance (grows.keeps _) (.refl _) runs

theorem runNamed_extends (grows : chain.Grows) {model : Model} {bag : ViewBag}
    {result : Except TemplateError String}
    (runs : engine.runNamed chain name model bag session = some (result, after)) :
    after.Extends (session.record (.templateSought name)) :=
  (engine.keeps_extends _).runNamed (grows.keeps _) (.refl _) runs

theorem layoutOf_extends {template : Instance} {layout : String}
    {result : Except TemplateError Instance}
    (looks : engine.layoutOf template layout session = some (result, after)) :
    after.Extends (session.record (.templateSought layout)) :=
  (engine.keeps_extends _).layoutOf (.refl _) looks

theorem runNamed_grows (engine : Engine) (grows : chain.Grows) :
    Includer.Grows (engine.runNamed chain) :=
  fun _ _ _ _ _ _ runs => (runNamed_extends grows runs).trans (record_extends _ _)

theorem chain_grows (engine : Engine) (bound : Nat) : Chain.Grows (engine.chain bound) :=
  fun _ _ session _ runs => (engine.keeps_extends session).chain bound _ _ _ _ (.refl _) runs

end Engine
end Templating
