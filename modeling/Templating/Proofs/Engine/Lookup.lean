import Templating.Proofs.Cache.Peers
import Templating.Proofs.Engine.Simulation

/-!
What an engine finds in two sessions that differ in their journals.

An engine comes to the same template in both sessions.  What it finds is in the cache already, or comes
from an input that it is asked to compile, or from the resolver's text for the name.
-/

namespace Templating.Engine

open Session (Peers Agree)

variable {engine : Engine} {Good : Artifact Body → Prop} {session session' : Session Body}

theorem compileArtifact_peers (peers : Peers Good session session') {input : CompileInput}
    (good : IfOk Good (engine.outcome input)) :
    Agree Good (IfOk fun artifact => Good artifact.content)
      (engine.compileArtifact input session) (engine.compileArtifact input session') := by
  unfold compileArtifact
  cases selected : engine.pipelineFor input.fileName with
  | error error => exact .some ⟨rfl, fun _ failed => (nomatch failed), peers⟩
  | ok pipeline =>
      have good : IfOk Good (compileTemplate pipeline input engine.options).1 := by
        simpa only [outcome, selected] using good
      exact Session.getOrCompile_peers peers good

theorem newInstance_good {artifact : Shared (Artifact Body)} (good : Good artifact.content)
    (model : Model) :
    IfOk (fun template => Good template.artifact.content) (engine.newInstance artifact model) := by
  intro template made
  rw [artifact_of_newInstance made]
  exact good

theorem compile_peers (peers : Peers Good session session') {input : CompileInput}
    (good : IfOk Good (engine.outcome input)) :
    Agree Good (IfOk fun template => Good template.artifact.content)
      (engine.compile input session) (engine.compile input session') := by
  have compiled := compileArtifact_peers peers good
  unfold compile
  generalize engine.compileArtifact input session = given,
    engine.compileArtifact input session' = given' at compiled ⊢
  cases compiled with
  | none => exact .none
  | @some given given' agree =>
      obtain ⟨result, after⟩ := given
      obtain ⟨_, after'⟩ := given'
      obtain ⟨rfl, fits, peers⟩ := agree
      cases result with
      | error error => exact .some ⟨rfl, fun _ failed => (nomatch failed), peers⟩
      | ok artifact => exact .some ⟨rfl, newInstance_good (fits artifact rfl) .none, peers⟩

/-- What a look-up may come to, if all that is found is as `Good` says. -/
def Finds (Good : Artifact Body → Prop) : Except TemplateError (Option Instance) → Prop :=
  IfOk fun found => ∀ template, found = some template → Good template.artifact.content

theorem finds_map_some {result : Except TemplateError Instance}
    (good : IfOk (fun template => Good template.artifact.content) result) :
    Finds Good (result.map some) := by
  intro found same template here
  cases result with
  | error error => cases same
  | ok made =>
      cases same
      cases here
      exact good _ rfl

theorem finds_none : Finds Good (.ok none) := by
  intro found same template here
  cases same
  cases here

theorem findTemplate_peers (peers : Peers Good session session') {name : String}
    (good : ∀ input, engine.input? name = some input → IfOk Good (engine.outcome input)) :
    Agree Good (Finds Good) (engine.findTemplate name session)
      (engine.findTemplate name session') := by
  have sought := Session.get_peers
    (peers.record (.templateSought name) (.templateSought name)) name
  unfold findTemplate
  generalize (session.record (.templateSought name)).get name = given,
    (session'.record (.templateSought name)).get name = given' at sought ⊢
  cases sought with
  | none => exact .none
  | @some given given' agree =>
      obtain ⟨found, after⟩ := given
      obtain ⟨_, after'⟩ := given'
      obtain ⟨rfl, fits, peers⟩ := agree
      rcases found with _ | artifact
      · cases known : engine.resolver with
        | none =>
            simp only [resolve, known]
            exact .some ⟨rfl, finds_none, peers⟩
        | some resolver =>
            have asked := peers.record (.resolverAsked name) (.resolverAsked name)
            cases source : resolver.resolve name with
            | none =>
                simp only [resolve, known, source]
                exact .some ⟨rfl, finds_none, asked⟩
            | some text =>
                simp only [resolve, known, source]
                have input : engine.input? name = some ⟨some name, text.content, text.fileName,
                    text.modelType⟩ := by
                  simp [input?, known, source]
                have made := compile_peers
                  (asked.record (.templateResolved name) (.templateResolved name)) (good _ input)
                generalize engine.compile _ _ = given at made ⊢
                generalize engine.compile _ _ = given' at made ⊢
                cases made with
                | none => exact .none
                | some agree =>
                    obtain ⟨same, fits, peers⟩ := agree
                    exact .some ⟨congrArg (Except.map some) same, finds_map_some fits, peers⟩
      · exact .some ⟨rfl, finds_map_some (newInstance_good (fits artifact rfl) .none), peers⟩

end Templating.Engine
