import Templating.Proofs.Engine.Filling

/-!
What a session has in stock.

A session is stocked with what fits if all that is listed in its cache fits the key that it is listed
under.  An engine lists nothing under the key of an input but what it makes of the input, so a session
stays stocked as long as that fits the key, whatever is dropped on the way.
-/

namespace Templating

/-- What a key is listed with when a compile has come to a result. -/
def Settled.ofResult (fingerprint : Fingerprint) :
    Except TemplateError (Shared (Artifact L)) → Settled L
  | .ok artifact => .ready artifact
  | .error error => .failed fingerprint error

/-- All that the cache of a session lists fits the key that it is listed under. -/
def Session.Stocked (fits : String → Settled Body → Prop) (session : Session Body) : Prop :=
  ∃ ledger, session.cache.Represents ledger ∧
    ∀ key settled, (key, settled) ∈ ledger.entries → fits key settled

variable {fits : String → Settled Body → Prop} {engine : Engine} {session after : Session Body}

/-- Whatever is made of an input fits the key of the input. -/
def Engine.MakesFitting (engine : Engine) (fits : String → Settled Body → Prop) (input : CompileInput) :
    Prop :=
  ∀ settled, engine.Backs input settled → fits input.key settled

namespace Session.Stocked

theorem start (fits : String → Settled Body → Prop) (engine : Engine) : engine.start.Stocked fits :=
  ⟨_, Cache.create_represents _ _, by simp⟩

theorem congr (stocked : session.Stocked fits) (same : after.cache = session.cache) :
    after.Stocked fits := by
  obtain ⟨ledger, represents, fit⟩ := stocked
  exact ⟨ledger, same ▸ represents, fit⟩

theorem of_subset {ledger ledger' : Ledger Body}
    (fit : ∀ key settled, (key, settled) ∈ ledger.entries → fits key settled)
    (represents : after.cache.Represents ledger')
    (subset : ∀ entry ∈ ledger'.entries, entry ∈ ledger.entries) : after.Stocked fits :=
  ⟨ledger', represents, fun key settled member => fit key settled (subset _ member)⟩

theorem record (stocked : session.Stocked fits) (event : Event) : (session.record event).Stocked fits :=
  stocked.congr rfl

theorem get (stocked : session.Stocked fits) (key : String) :
    ∃ found after, session.get key = some (found, after) ∧ after.Stocked fits ∧
      ∀ artifact, found = some artifact → fits key (.ready artifact) := by
  obtain ⟨ledger, represents, fit⟩ := stocked
  obtain ⟨after, gets, touched⟩ := Session.get_represents represents key
  refine ⟨_, after, gets, of_subset fit touched fun _ => Ledger.mem_touch, fun artifact found => ?_⟩
  obtain ⟨settled, listed, ready⟩ := Option.bind_eq_some_iff.mp found
  cases settled with
  | failed => cases ready
  | ready _ =>
      cases ready
      exact fit key _ (Ledger.mem_of_find? listed)

theorem remove (stocked : session.Stocked fits) (key : String) :
    (session.remove key).2.Stocked fits := by
  obtain ⟨ledger, represents, fit⟩ := stocked
  exact of_subset fit (Session.remove_represents represents key).2 fun _ member =>
    (List.mem_filter.mp member).1

theorem clear (stocked : session.Stocked fits) : session.clear.Stocked fits := by
  obtain ⟨ledger, represents, fit⟩ := stocked
  exact of_subset fit (Session.clear_represents represents) fun _ member =>
    (List.not_mem_nil member).elim

/-- What a call for an input comes to fits the key of the input, even if it was listed before. -/
theorem compileArtifact (stocked : session.Stocked fits) {input : CompileInput}
    (makes : engine.MakesFitting fits input) :
    ∃ result after, engine.compileArtifact input session = some (result, after) ∧
      after.Stocked fits ∧ fits input.key (.ofResult input.fingerprint result) := by
  obtain ⟨ledger, represents, fit⟩ := stocked
  obtain ⟨result, after, ledger', compiles, represents', answers, entries⟩ :=
    engine.compileArtifact_represents represents input
  refine ⟨result, after, compiles, ⟨ledger', represents', fun key settled member => ?_⟩, ?_⟩
  · rcases entries _ member with old | ⟨rfl, backs⟩
    · exact fit key settled old
    · exact makes _ backs
  · -- The answer is listed already, or it is the outcome of the input.
    rcases answers with answered | comes
    · obtain ⟨settled, listed, answer⟩ := Option.bind_eq_some_iff.mp answered
      have listed := fit _ _ (Ledger.mem_of_find? listed)
      cases settled with
      | ready artifact =>
          cases (Option.ite_none_right_eq_some.mp answer).2
          exact listed
      | failed recorded error =>
          obtain ⟨⟨rfl, _⟩, same⟩ := Option.ite_none_right_eq_some.mp answer
          cases same
          exact listed
    · cases result with
      | ok artifact => exact makes (.ready artifact) comes.symm
      | error error => exact makes (.failed input.fingerprint error) ⟨rfl, comes.symm⟩

end Session.Stocked

/-- What a look-up of a name can come to in a session that is stocked with what fits. -/
inductive Engine.Turnout (engine : Engine) (fits : String → Settled Body → Prop) (name : String) :
    Except TemplateError (Option Instance) → Prop where
  | found {template : Instance} (fit : fits name (.ready template.artifact))
      (plain : template.layout = none) : Turnout engine fits name (.ok (some template))
  | unknown (unresolved : engine.input? name = none) : Turnout engine fits name (.ok none)
  | failed {input : CompileInput} {error : TemplateError} (resolves : engine.input? name = some input)
      (fit : fits name (.failed input.fingerprint error)) : Turnout engine fits name (.error error)

theorem Engine.turnout_of_newInstance (engine : Engine) {name : String}
    {artifact : Shared (Artifact Body)} (fit : fits name (.ready artifact)) :
    engine.Turnout fits name ((engine.newInstance artifact .none).map some) := by
  obtain ⟨template, made, rfl, plain⟩ := engine.exists_newInstance artifact
  rw [made]
  exact .found fit plain

namespace Session.Stocked

theorem findTemplate (stocked : session.Stocked fits) {name : String}
    (resolved : ∀ input, engine.input? name = some input → engine.MakesFitting fits input) :
    ∃ result after, engine.findTemplate name session = some (result, after) ∧ after.Stocked fits ∧
      engine.Turnout fits name result := by
  obtain ⟨found, looked, gets, left, cached⟩ := (stocked.record (.templateSought name)).get name
  cases found with
  | some artifact =>
      exact ⟨_, looked, by simp only [Engine.findTemplate, gets], left,
        engine.turnout_of_newInstance (cached artifact rfl)⟩
  | none =>
      obtain ⟨resolves, kept⟩ := engine.resolve_input? name looked
      cases answer : engine.resolve name looked with
      | mk source asked =>
          rw [answer] at resolves kept
          have left : asked.Stocked fits := left.congr kept
          cases source with
          | none =>
              exact ⟨.ok none, asked, by simp only [Engine.findTemplate, gets, answer], left,
                .unknown resolves.symm⟩
          | some source =>
              obtain ⟨result, after, compiles, left, fit⟩ :=
                (left.record (.templateResolved name)).compileArtifact
                  (resolved _ resolves.symm)
              cases result with
              | error error =>
                  exact ⟨.error error, after, by
                    simp only [Engine.findTemplate, gets, answer, Engine.compile, compiles, Except.map],
                    left, .failed resolves.symm fit⟩
              | ok artifact =>
                  exact ⟨_, after, by
                    simp only [Engine.findTemplate, gets, answer, Engine.compile, compiles],
                    left, engine.turnout_of_newInstance fit⟩

end Session.Stocked

/-- A session is stocked with what fits if all that its engine was asked for fits. -/
theorem Engine.Filled.stocked {inputs : List CompileInput} (filled : engine.Filled inputs session)
    (makes : ∀ input ∈ inputs, engine.MakesFitting fits input) : session.Stocked fits := by
  induction filled with
  | start => exact .start fits engine
  | record _ event ih => exact (ih makes).record event
  | artifact _ compiles ih =>
      obtain ⟨first, makes⟩ := List.forall_mem_cons.mp makes
      obtain ⟨_, _, compiles', left, _⟩ := (ih makes).compileArtifact first
      cases compiles.symm.trans compiles'
      exact left
  | @get _ _ key _ _ _ gets ih =>
      obtain ⟨_, _, gets', left, _⟩ := (ih makes).get key
      cases gets.symm.trans gets'
      exact left
  | remove _ key ih => exact (ih makes).remove key
  | clear _ ih => exact (ih makes).clear

end Templating
