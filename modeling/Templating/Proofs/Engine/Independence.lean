import Templating.Pipeline.Static
import Templating.Proofs.Engine.Bound
import Templating.Proofs.Engine.Simulation

/-!
What a render comes to does not depend on the cache.

An engine that has served any calls is in a sound session, and so is the engine with an unbounded
cache in which nothing has happened yet.  The two engines agree, so that whatever is rendered in the
one comes to the same in the other.
-/

namespace Templating

inductive Rendering where
  | parse (content : String) (model : Model) (bag : ViewBag)
  | run (name : String) (model : Model) (bag : ViewBag)

/-- The input without a name that a render compiles. -/
def Rendering.input? : Rendering → Option CompileInput
  | .parse content model _ => some { content, modelType := model.modelType }
  | .run _ _ _ => none

inductive EngineCall where
  | render (rendering : Rendering) (bound : Nat)
  | findTemplate (name : String)
  | hasTemplate (name : String)
  /-- Compiles a text without a name. -/
  | compile (content : String) (fileName : Option String) (modelType : ModelType)
  | get (key : String)
  | contains (key : String)
  | remove (key : String)
  | clear

/-- The input without a name that a call compiles. -/
def EngineCall.input? : EngineCall → Option CompileInput
  | .render rendering _ => rendering.input?
  | .compile content fileName modelType => some { content, fileName, modelType }
  | .findTemplate _ | .hasTemplate _ | .get _ | .contains _ | .remove _ | .clear => none

namespace Engine

def perform (engine : Engine) (bound : Nat) :
    Rendering → Session Body → Option (Except TemplateError String × Session Body)
  | .parse content model bag => engine.parse bound content model bag
  | .run name model bag => engine.run bound name model bag

/-- A render comes to something if some bound suffices for it. -/
def Gives (engine : Engine) (rendering : Rendering) (session : Session Body)
    (given : Except TemplateError String × Session Body) : Prop :=
  ∃ bound, engine.perform bound rendering session = some given

def serve (engine : Engine) (session : Session Body) : EngineCall → Option (Session Body)
  | .render rendering bound => (engine.perform bound rendering session).map Prod.snd
  | .findTemplate name => (engine.findTemplate name session).map Prod.snd
  | .hasTemplate name => (engine.hasTemplate name session).map Prod.snd
  | .compile content fileName modelType =>
      (engine.compile { content, fileName, modelType } session).map Prod.snd
  | .get key => (session.get key).map Prod.snd
  | .contains key => (session.contains key).map Prod.snd
  | .remove key => some (session.remove key).2
  | .clear => some session.clear

def serveAll (engine : Engine) : List EngineCall → Session Body → Option (Session Body)
  | [], session => some session
  | call :: rest, session =>
      match engine.serve session call with
      | none => none
      | some session => engine.serveAll rest session

/-- The engine with a cache that drops no artifact and keeps no failure. -/
def unbounded (engine : Engine) : Engine :=
  engine.withConfig { engine.config with cacheCapacity := none, failurePolicy := .retry }

theorem Agrees.refl (engine : Engine) : engine.Agrees engine :=
  ⟨rfl, rfl, rfl, rfl, rfl⟩

theorem agrees_unbounded (engine : Engine) : engine.Agrees engine.unbounded :=
  ⟨rfl, rfl, rfl, rfl, rfl⟩

theorem unbounded_agrees (engine : Engine) : engine.unbounded.Agrees engine :=
  ⟨rfl, rfl, rfl, rfl, rfl⟩

variable {engine first second : Engine} {inputs : List CompileInput}

theorem perform_within {bound larger : Nat} (le : bound ≤ larger) {rendering : Rendering}
    {session : Session Body} {given : Except TemplateError String × Session Body}
    (performs : engine.perform bound rendering session = some given) :
    engine.perform larger rendering session = some given := by
  have within := engine.chain_within le
  cases rendering with
  | run name model bag => exact runNamed_within within _ _ _ _ _ performs
  | parse content model bag =>
      simp only [perform, parse, render] at performs ⊢
      split at performs
      · contradiction
      · exact performs
      · obtain ⟨rendered, ran, rfl⟩ := Option.map_eq_some_iff.mp performs
        simp only [runInstance_within within ran, Option.map_some]

theorem Gives.unique {rendering : Rendering} {session : Session Body}
    {given given' : Except TemplateError String × Session Body}
    (gives : engine.Gives rendering session given)
    (gives' : engine.Gives rendering session given') : given = given' := by
  obtain ⟨bound, performs⟩ := gives
  obtain ⟨bound', performs'⟩ := gives'
  have larger := perform_within (Nat.le_max_left bound bound') performs
  have larger' := perform_within (Nat.le_max_right bound bound') performs'
  exact Option.some.inj (larger.symm.trans larger')

/-! ## What all calls keep -/

section Keeps

variable {Good : Session Body → Prop} {session after : Session Body}

theorem Keeps.perform (keeps : engine.Keeps Good) {bound : Nat} {rendering : Rendering}
    {result : Except TemplateError String} (good : Good session)
    (performs : engine.perform bound rendering session = some (result, after)) : Good after := by
  have chains := keeps.chain bound
  cases rendering with
  | run name model bag => exact keeps.includer chains _ _ _ _ _ _ good performs
  | parse content model bag =>
      simp only [Engine.perform, parse] at performs
      split at performs
      · contradiction
      · next error compiled compiles =>
          cases performs
          exact keeps.compile good compiles
      · next template compiled compiles =>
          obtain ⟨rendered, ran, same⟩ := Option.map_eq_some_iff.mp performs
          cases same
          exact Keeps.runInstance chains (keeps.compile good compiles) ran

variable (keeps : engine.Keeps Good) (removes : ∀ session key, Good session →
  Good (session.remove key).2) (clears : ∀ session, Good session → Good session.clear)

include keeps removes clears

theorem Keeps.serve {call : EngineCall} (good : Good session)
    (serves : engine.serve session call = some after) : Good after := by
  have left {reply : Type} {served : Option (reply × Session Body)}
      (serves : served.map Prod.snd = some after) : ∃ answer, served = some (answer, after) := by
    obtain ⟨⟨answer, _⟩, same, rfl⟩ := Option.map_eq_some_iff.mp serves
    exact ⟨answer, same⟩
  cases call with
  | render rendering bound => exact keeps.perform good (left serves).choose_spec
  | findTemplate name => exact keeps.findTemplate (keeps.record _ good) (left serves).choose_spec
  | hasTemplate name => exact keeps.hasTemplate good (left serves).choose_spec
  | compile content fileName modelType => exact keeps.compile good (left serves).choose_spec
  | get key => exact keeps.get good (left serves).choose_spec
  | contains key => exact keeps.contains good (left serves).choose_spec
  | remove key => cases serves; exact removes session key good
  | clear => cases serves; exact clears session good

theorem Keeps.serveAll {history : List EngineCall} (good : Good session)
    (serves : engine.serveAll history session = some after) : Good after := by
  induction history generalizing session with
  | nil => cases serves; exact good
  | cons call rest ih =>
      simp only [Engine.serveAll] at serves
      split at serves
      · contradiction
      · next served serves' => exact ih (keeps.serve removes clears good serves') serves

end Keeps

theorem perform_extends {bound : Nat} {rendering : Rendering} {session after : Session Body}
    {result : Except TemplateError String}
    (performs : engine.perform bound rendering session = some (result, after)) :
    after.Extends session :=
  (engine.keeps_extends session).perform (.refl _) performs

theorem serveAll_extends {history : List EngineCall} {session after : Session Body}
    (serves : engine.serveAll history session = some after) : after.Extends session :=
  (engine.keeps_extends session).serveAll
    (fun session key grown => (session.remove_extends key).trans grown)
    (fun _ grown => (Session.extends_of_journal rfl).trans grown) (.refl _) serves

/-! ## Renders in twin sessions -/

theorem Twins.compile (agrees : first.Agrees second) (onlyPage : first.OnlyPage)
    (collisionFree : CompileInput.CollisionFree inputs) {left right : Session Body}
    (twins : Twins first second inputs left right) {input : CompileInput} (asked : input ∈ inputs)
    (unnamed : input.name = none) :
    ∃ result left' result' right', first.compile input left = some (result, left') ∧
      second.compile input right = some (result', right') ∧
      result'.map Instance.unnumbered = result.map Instance.unnumbered ∧
      (∀ template, result = .ok template → template.body.OnlyPage) ∧
      Twins first second inputs left' right' := by
  obtain ⟨⟨_, sound⟩, _, sound'⟩ := twins
  obtain ⟨result, left', _, compiles, comes, after⟩ :=
    sound.compile collisionFree (.unnamed asked unnamed)
  obtain ⟨result', right', _, compiles', comes', after'⟩ :=
    sound'.compile collisionFree (.unnamed asked unnamed)
  refine ⟨result, left', result', right', compiles, compiles', ?_, ?_, ⟨_, after⟩, _, after'⟩
  · rw [comes, comes', agrees.made]
  · intro template same
    subst same
    have isPage : template.unnumbered.body.OnlyPage := onlyPage_of_made onlyPage comes.symm
    exact isPage

theorem perform_twins (agrees : first.Agrees second) (onlyPage : first.OnlyPage)
    (collisionFree : CompileInput.CollisionFree inputs) {bound : Nat} {rendering : Rendering}
    (asked : ∀ input, rendering.input? = some input → input ∈ inputs)
    {session session' after : Session Body} (twins : Twins first second inputs session session')
    {result : Except TemplateError String}
    (performs : first.perform bound rendering session = some (result, after))
    (plain : after.SoughtPlain) :
    ∃ after', second.perform bound rendering session' = some (result, after') ∧
      Twins first second inputs after after' := by
  have chains := chain_twins agrees onlyPage collisionFree bound
  have grows := first.chain_grows bound
  cases rendering with
  | run name model bag =>
      exact runNamed_twins agrees onlyPage collisionFree grows chains _ _ _ _ _ _ _ twins performs
        plain
  | parse content model bag =>
      obtain ⟨compiled, left, compiled', right, compiles, compiles', same, isPage, twins'⟩ :=
        twins.compile agrees onlyPage collisionFree (asked _ rfl) rfl
      simp only [perform, parse, compiles, compiles'] at performs ⊢
      cases compiled with
      | error error =>
          cases performs
          rw [error_of_alike same rfl]
          exact ⟨right, rfl, twins'⟩
      | ok template =>
          obtain ⟨template', rfl, alike⟩ := ok_of_alike same rfl
          obtain ⟨rendered, ran, same⟩ := Option.map_eq_some_iff.mp performs
          cases same
          obtain ⟨after', ran', twins''⟩ :=
            runInstance_twins chains alike (isPage _ rfl) twins' ran plain
          have rendered' : second.render bound template' model (.withViewBag bag) right =
            some { rendered with session := after' } := ran'
          exact ⟨after', by simp only [rendered', Option.map_some], twins''⟩

/-! ## Any history -/

theorem hasTemplate_sound {session after : Session Body} {ledger : Ledger Body} {name : String}
    {known : Bool} (sound : engine.Sound inputs session ledger)
    (asks : engine.hasTemplate name session = some (known, after)) :
    ∃ ledger', engine.Sound inputs after ledger' := by
  obtain ⟨looked, looks, represents⟩ := Session.contains_represents sound.represents name
  have kept : engine.Sound inputs looked (ledger.touch name) :=
    sound.of_subset represents fun _ => Ledger.mem_touch
  simp only [hasTemplate, looks] at asks
  split at asks
  · contradiction
  · next found =>
      obtain ⟨_, rfl⟩ := Prod.mk.inj (Option.some.inj found)
      cases asks
      exact ⟨_, kept⟩
  · next found =>
      obtain ⟨_, rfl⟩ := Prod.mk.inj (Option.some.inj found)
      split at asks
      · cases asks
        exact ⟨_, kept⟩
      · cases asks
        exact ⟨_, kept.congr (engine.resolve_input? name looked).2⟩

theorem serve_sound (onlyPage : engine.OnlyPage)
    (collisionFree : CompileInput.CollisionFree inputs) {call : EngineCall}
    (asked : ∀ input, call.input? = some input → input ∈ inputs) {session after : Session Body}
    (sound : ∃ ledger, engine.Sound inputs session ledger)
    (serves : engine.serve session call = some after) (plain : after.SoughtPlain) :
    ∃ ledger, engine.Sound inputs after ledger := by
  cases call with
  | render rendering bound =>
      -- A render is its own twin.
      obtain ⟨⟨_, _⟩, performs, rfl⟩ := Option.map_eq_some_iff.mp serves
      obtain ⟨_, _, left, _⟩ :=
        perform_twins (.refl engine) onlyPage collisionFree asked ⟨sound, sound⟩ performs plain
      exact left
  | findTemplate name =>
      obtain ⟨⟨_, _⟩, finds, rfl⟩ := Option.map_eq_some_iff.mp serves
      have twins : Twins engine engine inputs session session := ⟨sound, sound⟩
      obtain ⟨_, twins', _⟩ := twins.look (.refl engine) onlyPage collisionFree finds plain
      exact twins'.left
  | hasTemplate name =>
      obtain ⟨_, sound⟩ := sound
      obtain ⟨⟨_, _⟩, asks, rfl⟩ := Option.map_eq_some_iff.mp serves
      exact hasTemplate_sound sound asks
  | compile content fileName modelType =>
      obtain ⟨_, sound⟩ := sound
      obtain ⟨_, _, ledger, compiles, _, sound'⟩ :=
        sound.compile collisionFree (.unnamed (asked _ rfl) rfl)
      simp only [serve, compiles, Option.map_some] at serves
      cases serves
      exact ⟨ledger, sound'⟩
  | get key =>
      obtain ⟨_, sound⟩ := sound
      obtain ⟨_, got, represents⟩ := Session.get_represents sound.represents key
      simp only [serve, got, Option.map_some] at serves
      cases serves
      exact ⟨_, sound.of_subset represents fun _ => Ledger.mem_touch⟩
  | contains key =>
      obtain ⟨_, sound⟩ := sound
      obtain ⟨_, looked, represents⟩ := Session.contains_represents sound.represents key
      simp only [serve, looked, Option.map_some] at serves
      cases serves
      exact ⟨_, sound.of_subset represents fun _ => Ledger.mem_touch⟩
  | remove key =>
      obtain ⟨_, sound⟩ := sound
      cases serves
      have represents := (Session.remove_represents sound.represents key).2
      exact ⟨_, sound.of_subset represents fun _ member => (List.mem_filter.mp member).1⟩
  | clear =>
      obtain ⟨_, sound⟩ := sound
      cases serves
      have represents := Session.clear_represents sound.represents
      exact ⟨_, sound.of_subset represents fun _ member => (List.not_mem_nil member).elim⟩

/-- Whatever an engine has served, its session is sound. -/
theorem serveAll_sound (onlyPage : engine.OnlyPage)
    (collisionFree : CompileInput.CollisionFree inputs) {history : List EngineCall}
    (asked : ∀ call ∈ history, ∀ input, call.input? = some input → input ∈ inputs)
    {session after : Session Body} (sound : ∃ ledger, engine.Sound inputs session ledger)
    (serves : engine.serveAll history session = some after) (plain : after.SoughtPlain) :
    ∃ ledger, engine.Sound inputs after ledger := by
  induction history generalizing session with
  | nil =>
      cases serves
      exact sound
  | cons call rest ih =>
      simp only [serveAll] at serves
      split at serves
      · contradiction
      · next served serves' =>
          have served := serve_sound onlyPage collisionFree (asked call (by simp)) sound serves'
            (plain.of_extends (serveAll_extends serves))
          exact ih (fun other member => asked other (by simp [member])) served serves

/-- A render comes to the same in an engine that has served any calls before and in the engine with
an unbounded cache that has served none: what the one comes to, the other comes to as well, as long
as the names that are looked up on the way are plain. -/
theorem gives_independent_of_cache (engine : Engine) (onlyPage : engine.OnlyPage)
    (history : List EngineCall) (rendering : Rendering)
    (collisionFree : CompileInput.CollisionFree
      (history.filterMap EngineCall.input? ++ rendering.input?.toList))
    (used : Session Body) (serves : engine.serveAll history engine.start = some used)
    (result : Except TemplateError String) :
    (∀ after, engine.Gives rendering used (result, after) → after.SoughtPlain →
      ∃ after', engine.unbounded.Gives rendering engine.unbounded.start (result, after')) ∧
    (used.SoughtPlain →
      ∀ after', engine.unbounded.Gives rendering engine.unbounded.start (result, after') →
        after'.SoughtPlain → ∃ after, engine.Gives rendering used (result, after)) := by
  have asked : ∀ call ∈ history, ∀ input, call.input? = some input →
      input ∈ history.filterMap EngineCall.input? ++ rendering.input?.toList :=
    fun call member input asks =>
      List.mem_append_left _ (List.mem_filterMap.mpr ⟨call, member, asks⟩)
  have asked' : ∀ input, rendering.input? = some input →
      input ∈ history.filterMap EngineCall.input? ++ rendering.input?.toList :=
    fun input asks => List.mem_append_right _ (by simp [asks])
  have fresh := engine.unbounded.start_sound
    (history.filterMap EngineCall.input? ++ rendering.input?.toList)
  have sound (plain : used.SoughtPlain) :=
    serveAll_sound onlyPage collisionFree asked ⟨_, engine.start_sound _⟩ serves plain
  constructor
  · intro after gives plain
    obtain ⟨bound, performs⟩ := gives
    have twins := Twins.mk (sound (plain.of_extends (perform_extends performs))) ⟨_, fresh⟩
    obtain ⟨after', performs', _⟩ :=
      perform_twins engine.agrees_unbounded onlyPage collisionFree asked' twins performs plain
    exact ⟨after', bound, performs'⟩
  · intro plain after' gives plain'
    obtain ⟨bound, performs⟩ := gives
    have twins := Twins.mk ⟨_, fresh⟩ (sound plain)
    obtain ⟨after, performs', _⟩ :=
      perform_twins engine.unbounded_agrees onlyPage collisionFree asked' twins performs plain'
    exact ⟨after, bound, performs'⟩

/-- A page inside a frame, with a part. -/
def framedPage : StaticPipeline Body :=
  { bodies :=
      [("frame", .call .renderBody .place),
        ("page", .call (.setLayout "frame") fun _ => .includeTemplate "part" .none .place),
        ("part", .ask (.writeLiteral (.text "content")))] }

theorem framedPage_onlyPage {entry : String × Body} (member : entry ∈ framedPage.bodies) :
    entry.2.OnlyPage := by
  simp only [framedPage, List.mem_cons, List.not_mem_nil, or_false] at member
  have place (result : Except TemplateError Producer) : (Body.place result).OnlyPage := by
    cases result <;> simp [Body.place, Body.orFail, Body.fail, Body.ask, Body.skip, Body.OnlyPage]
  rcases member with rfl | rfl | rfl
  · exact ⟨by simp, place⟩
  · exact ⟨by simp, fun _ => place⟩
  · simp [Body.ask, Body.skip, Body.OnlyPage]

/-- An engine with one seat in its cache, which it also keeps failures in. -/
def cramped : Engine where
  config := { cacheCapacity := some 1, failurePolicy := .remember }
  defaultPipeline := some framedPage.pipeline
  resolver := some (.ofTable (.ofList
    [("frame", { content := "frame" }), ("page", { content := "page" }),
      ("part", { content := "part" }), ("stray", { content := "stray" })]))

theorem cramped_onlyPage : cramped.OnlyPage := by
  intro fileName pipeline request body selected handed
  have only : cramped.pipelineFor fileName = .ok framedPage.pipeline :=
    pipelineFor_of_only rfl rfl fileName
  cases only.symm.trans selected
  exact framedPage_onlyPage (StaticPipeline.mem_of_compile handed)

/-- Calls that leave failures, evict what others have compiled, and use texts with and without their
names. -/
def crampedHistory : List EngineCall :=
  [.render (.run "stray" .none .empty) 1, .render (.run "page" .none .empty) 2,
    .render (.parse "part" .none .empty) 1, .findTemplate "frame", .hasTemplate "page",
    .get "part", .compile "page" none .dynamic, .contains "page", .remove "page", .clear,
    .render (.run "stray" .none .empty) 1]

theorem crampedHistory_collisionFree :
    CompileInput.CollisionFree (crampedHistory.filterMap EngineCall.input?) := by
  unfold CompileInput.CollisionFree
  decide +kernel

theorem cramped_gives :
    ∃ used, cramped.serveAll crampedHistory cramped.start = some used ∧ used.SoughtPlain ∧
      ∃ after, cramped.Gives (.run "page" .none .empty) used (.ok "content", after) ∧
        after.SoughtPlain := by
  have evaluated : ((cramped.serveAll crampedHistory cramped.start).any fun used =>
      decide used.SoughtPlain && (cramped.perform 2 (.run "page" .none .empty) used).any fun given =>
        decide (given.1 = .ok "content" ∧ given.2.SoughtPlain)) = true := by decide +kernel
  obtain ⟨used, serves, evaluated⟩ := (Option.any_eq_true _ _).mp evaluated
  obtain ⟨plain, evaluated⟩ := Bool.and_eq_true_iff.mp evaluated
  obtain ⟨⟨result, after⟩, performs, evaluated⟩ := (Option.any_eq_true _ _).mp evaluated
  obtain ⟨rfl, plain'⟩ := of_decide_eq_true evaluated
  exact ⟨used, serves, of_decide_eq_true plain, after, ⟨2, performs⟩, plain'⟩

theorem unbounded_cramped_gives :
    ∃ after, cramped.unbounded.Gives (.run "page" .none .empty) cramped.unbounded.start
      (.ok "content", after) ∧ after.SoughtPlain := by
  have evaluated : ((cramped.unbounded.perform 2 (.run "page" .none .empty)
      cramped.unbounded.start).any fun given =>
        decide (given.1 = .ok "content" ∧ given.2.SoughtPlain)) = true := by decide +kernel
  obtain ⟨⟨result, after⟩, performs, evaluated⟩ := (Option.any_eq_true _ _).mp evaluated
  obtain ⟨rfl, plain⟩ := of_decide_eq_true evaluated
  exact ⟨after, ⟨2, performs⟩, plain⟩

theorem cramped_independent_of_cache :
    cramped.OnlyPage ∧
    CompileInput.CollisionFree (crampedHistory.filterMap EngineCall.input? ++
      (Rendering.run "page" .none .empty).input?.toList) ∧
    ∃ used, cramped.serveAll crampedHistory cramped.start = some used ∧
      (∃ after, cramped.Gives (.run "page" .none .empty) used (.ok "content", after) ∧
        after.SoughtPlain ∧
        ∃ after', cramped.unbounded.Gives (.run "page" .none .empty) cramped.unbounded.start
          (.ok "content", after')) ∧
      used.SoughtPlain ∧
      ∃ after', cramped.unbounded.Gives (.run "page" .none .empty) cramped.unbounded.start
          (.ok "content", after') ∧ after'.SoughtPlain ∧
        ∃ after, cramped.Gives (.run "page" .none .empty) used (.ok "content", after) := by
  have collisionFree : CompileInput.CollisionFree (crampedHistory.filterMap EngineCall.input? ++
      (Rendering.run "page" .none .empty).input?.toList) := by
    simpa [Rendering.input?] using crampedHistory_collisionFree
  obtain ⟨used, serves, plain, after, gives, plain'⟩ := cramped_gives
  obtain ⟨fresh, gives', plain''⟩ := unbounded_cramped_gives
  obtain ⟨there, back⟩ := gives_independent_of_cache cramped cramped_onlyPage crampedHistory
    (.run "page" .none .empty) collisionFree used serves (.ok "content")
  exact ⟨cramped_onlyPage, collisionFree, used, serves, ⟨after, gives, plain', there after gives plain'⟩,
    plain, fresh, gives', plain'', back plain fresh gives' plain''⟩

end Engine
end Templating
