import Templating.Proofs.Engine.Independence
import Templating.Proofs.Engine.Lookup
import Templating.Proofs.Engine.Upkeep

/-!
Sessions that only the engine fills.

Every artifact in such a session was compiled for an input that the engine was asked for, and is marked
with the fingerprint and the model type of the input.  So whatever is found for a fingerprint is of the
model type asked for, as long as no two of the inputs collide.
-/

namespace Templating

/-- An artifact is marked as one of the inputs is. -/
def Artifact.MarkedBy (inputs : List CompileInput) (artifact : Artifact L) : Prop :=
  ∃ input ∈ inputs, artifact.fingerprint = input.fingerprint ∧ artifact.modelType = input.modelType

theorem Artifact.MarkedBy.mono {inputs more : List CompileInput} {artifact : Artifact L}
    (marked : artifact.MarkedBy inputs) (subset : inputs ⊆ more) : artifact.MarkedBy more := by
  obtain ⟨input, member, marks⟩ := marked
  exact ⟨input, subset member, marks⟩

theorem Session.getOrCompile_fingerprint {pipeline : Pipeline L} {input : CompileInput}
    {options : PipelineOptions} {session after : Session L} {artifact : Shared (Artifact L)}
    (compiles : session.getOrCompile pipeline input options = some (.ok artifact, after)) :
    artifact.content.fingerprint = input.fingerprint := by
  obtain ⟨⟨⟨result, report⟩, left⟩, obtained, same⟩ := Option.map_eq_some_iff.mp compiles
  cases same
  simp only [obtain] at obtained
  split at obtained
  · contradiction
  · contradiction
  · next acquires =>
      -- The slot has answered for the fingerprint.
      cases obtained
      simp only [acquire] at acquires
      split at acquires
      · cases acquires
      · split at acquires
        · cases acquires
        · split at acquires
          · next answers =>
              cases acquires
              simp only [Cache.answer?] at answers
              split at answers
              · obtain ⟨same, answer⟩ := Option.ite_none_right_eq_some.mp answers
                cases answer
                exact same
              · split at answers <;> cases answers
              · contradiction
          · cases acquires
          · cases acquires
  · next slot held acquires =>
      cases outcome : (compileTemplate pipeline input options).1 with
      | error error => simp [outcome, settle, settleSlot] at obtained
      | ok made =>
          simp only [outcome, settle, settleSlot, Cache.share] at obtained
          cases obtained
          exact (compileTemplate_eq_ok outcome).2.1

namespace Engine

/-- The sessions of an engine with the inputs that it has been asked to compile. -/
inductive Filled (engine : Engine) : List CompileInput → Session Body → Prop where
  | start : Filled engine [] engine.start
  | record (filled : Filled engine inputs session) (event : Event) :
      Filled engine inputs (session.record event)
  | artifact (filled : Filled engine inputs session)
      (compiles : engine.compileArtifact input session = some (result, after)) :
      Filled engine (input :: inputs) after
  | get (filled : Filled engine inputs session) (gets : session.get key = some (cached, after)) :
      Filled engine inputs after
  | remove (filled : Filled engine inputs session) (key : String) :
      Filled engine inputs (session.remove key).2
  | clear (filled : Filled engine inputs session) : Filled engine inputs session.clear

variable {engine : Engine} {inputs : List CompileInput} {session after : Session Body}

/-- Whatever an engine does with a session that it has filled, it has filled the session. -/
theorem keeps_filled (engine : Engine) (inputs : List CompileInput) :
    engine.Keeps fun session => ∃ more, engine.Filled (more ++ inputs) session where
  record event := fun ⟨more, filled⟩ => ⟨more, filled.record event⟩
  artifact := fun ⟨more, filled⟩ compiles => ⟨_ :: more, filled.artifact compiles⟩
  get := fun ⟨more, filled⟩ gets => ⟨more, filled.get gets⟩

theorem Filled.serve (filled : engine.Filled inputs session) {call : EngineCall}
    (serves : engine.serve session call = some after) :
    ∃ more, engine.Filled (more ++ inputs) after := by
  have keeps := engine.keeps_filled inputs
  have good : ∃ more, engine.Filled (more ++ inputs) session := ⟨[], filled⟩
  exact keeps.serve (fun _ key ⟨more, filled⟩ => ⟨more, filled.remove key⟩)
    (fun _ ⟨more, filled⟩ => ⟨more, filled.clear⟩) good serves

theorem marked_of_outcome {input : CompileInput} {artifact : Artifact Body}
    (comes : engine.outcome input = .ok artifact) : artifact.MarkedBy (input :: inputs) := by
  obtain ⟨_, _, compiles⟩ := compiled_of_outcome comes
  obtain ⟨_, fingerprint, modelType, _⟩ := compileTemplate_eq_ok compiles
  exact ⟨input, by simp, fingerprint, modelType⟩

theorem holds_of_compileArtifact {input : CompileInput}
    {result : Except TemplateError (Shared (Artifact Body))}
    (holds : session.cache.Holds (Artifact.MarkedBy inputs))
    (compiles : engine.compileArtifact input session = some (result, after)) :
    IfOk (fun artifact => artifact.content.MarkedBy (input :: inputs)) result ∧
      after.cache.Holds (Artifact.MarkedBy (input :: inputs)) := by
  have peers : Session.Peers (Artifact.MarkedBy (input :: inputs)) session session :=
    ⟨rfl, fun entry member artifact ready =>
      (holds entry member artifact ready).mono (List.subset_cons_self _ _)⟩
  have marked : IfOk (Artifact.MarkedBy (input :: inputs)) (engine.outcome input) :=
    fun _ => marked_of_outcome
  have agree := compileArtifact_peers peers marked
  rw [compiles] at agree
  cases agree with
  | some agree => exact ⟨agree.2.1, agree.2.2.holds⟩

theorem Filled.holds (filled : engine.Filled inputs session) :
    session.cache.Holds (Artifact.MarkedBy inputs) := by
  induction filled with
  | start => simp [Cache.Holds, Engine.start, Cache.ofConfig, Cache.create]
  | record _ _ ih => exact ih
  | artifact _ compiles ih => exact (holds_of_compileArtifact ih compiles).2
  | @get _ _ key _ _ _ gets ih =>
      have agree := Session.get_peers ⟨rfl, ih⟩ key
      rw [gets] at agree
      cases agree with
      | some agree => exact agree.2.2.holds
  | remove _ key ih =>
      unfold Session.remove
      split
      · exact ih
      · exact ih.of_subset (fun _ member => (Cache.others_sublist _ key).subset member) fun _ => rfl
  | clear _ ih => exact fun _ member => (List.not_mem_nil member).elim

/-- A template that is compiled or found for an input is of the model type of the input. -/
theorem Filled.modelType (filled : engine.Filled inputs session) {input : CompileInput}
    (collisionFree : CompileInput.CollisionFree (input :: inputs)) {template : Instance}
    (compiles : engine.compile input session = some (.ok template, after)) :
    template.modelType = input.modelType := by
  unfold Engine.compile at compiles
  split at compiles
  · contradiction
  · cases compiles
  · next artifact left ran =>
      obtain ⟨instanced, rfl⟩ := Prod.mk.inj (Option.some.inj compiles)
      obtain ⟨marked, _⟩ := holds_of_compileArtifact filled.holds ran
      obtain ⟨other, member, fingerprint, modelType⟩ := marked artifact rfl
      have asked : artifact.content.fingerprint = input.fingerprint := by
        unfold compileArtifact at ran
        split at ran
        · cases ran
        · exact Session.getOrCompile_fingerprint ran
      obtain ⟨_, _, same⟩ :=
        collisionFree input (by simp) other member (asked.symm.trans fingerprint)
      rw [Instance.modelType, artifact_of_newInstance instanced, modelType, same]

end Engine
end Templating
