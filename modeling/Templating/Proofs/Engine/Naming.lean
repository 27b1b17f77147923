import Templating.Proofs.Cache.Filing
import Templating.Proofs.Cache.Transparency
import Templating.Proofs.Engine.Independence

/-!
Templates go by the names that they are looked up by.

Whatever an engine does with its cache are compiles of inputs, and others may use the cache as well, as
long as they compile nothing but inputs.  Such a history leaves each artifact under its own key, where a
look-up finds it, and what is not there is compiled for the name that was asked for.
-/

namespace Templating

open Session (Tidy)

variable {L : Type u}

namespace Engine

/-- The sessions that an engine comes to while all that compiles for its cache compiles inputs. -/
inductive Uses (engine : Engine) : Session Body → Prop where
  | start : Uses engine engine.start
  | serve (uses : Uses engine session) (serves : engine.serve session call = some after) :
      Uses engine after
  | compile (uses : Uses engine session)
      (compiles : engine.compile input session = some (result, after)) : Uses engine after
  | render (uses : Uses engine session)
      (renders : engine.render bound template model context session = some rendered) :
      Uses engine rendered.session
  /-- A compile for the cache alone, with any pipeline. -/
  | obtain {options : PipelineOptions} (uses : Uses engine session)
      (obtains : session.getOrCompile pipeline input options = some (result, after)) :
      Uses engine after
  /-- A call on the cache whose compiles call the cache in turn. -/
  | request (uses : Uses engine session) (compile : Request.CompilesInputs request)
      (ran : request.run session = some (report, after)) : Uses engine after

variable {engine : Engine} {session : Session Body}

theorem Uses.serveAll (uses : engine.Uses session) {history : List EngineCall} {after : Session Body}
    (serves : engine.serveAll history session = some after) : engine.Uses after := by
  induction history generalizing session with
  | nil =>
      cases serves
      exact uses
  | cons call rest ih =>
      simp only [Engine.serveAll] at serves
      split at serves
      · contradiction
      · next served => exact ih (uses.serve served) serves

theorem tidy_of_getOrCompile (tidy : session.Tidy) {after : Session Body} {pipeline : Pipeline Body}
    {input : CompileInput} {options : PipelineOptions}
    {result : Except TemplateError (Shared (Artifact Body))}
    (obtains : session.getOrCompile pipeline input options = some (result, after)) : after.Tidy := by
  obtain ⟨_, _, obtains', files⟩ := tidy.getOrCompile pipeline input options
  cases obtains.symm.trans obtains'
  exact files.toTidy

theorem keeps_tidy (engine : Engine) : engine.Keeps Tidy where
  record event tidy := tidy.congr rfl
  artifact tidy compiles := by
    unfold compileArtifact at compiles
    split at compiles
    · cases compiles
      exact tidy
    · exact tidy_of_getOrCompile tidy compiles
  get {session after key found} tidy got := by
    have ran : (Request.get key).run session = some (.found found after.cache, after) := by
      simp only [Request.run, got, Option.map_some]
    exact tidy.run (.get key) trivial ran

theorem start_tidy (engine : Engine) : engine.start.Tidy :=
  ⟨Cache.create_orderly _ _, rfl, Cache.filed_of_empty rfl⟩

theorem Uses.tidy (uses : engine.Uses session) : session.Tidy := by
  induction uses with
  | start => exact engine.start_tidy
  | serve _ serves tidy =>
      refine engine.keeps_tidy.serve (fun session key tidy => ?_) (fun session tidy => ?_) tidy serves
      · exact tidy.run (.remove key) trivial rfl
      · exact tidy.run .clear trivial rfl
  | compile _ compiles tidy => exact engine.keeps_tidy.compile tidy compiles
  | @render _ bound _ _ _ _ _ renders tidy =>
      exact Keeps.runInstance (engine.keeps_tidy.chain bound) tidy renders
  | obtain _ obtains tidy => exact tidy_of_getOrCompile tidy obtains
  | request _ compile ran tidy => exact tidy.run _ compile ran

end Engine

/-! ## Looking up a name -/

namespace Session.Tidy

variable {session : Session Body}

theorem compileArtifact (tidy : session.Tidy) (engine : Engine) (input : CompileInput) :
    ∃ result after, engine.compileArtifact input session = some (result, after) ∧
      ∀ artifact, result = .ok artifact → artifact.content.key = input.key := by
  unfold Engine.compileArtifact
  split
  · exact ⟨_, session, rfl, fun _ failed => nomatch failed⟩
  · next pipeline _ =>
      obtain ⟨result, after, obtains, files⟩ := tidy.getOrCompile pipeline input engine.options
      exact ⟨result, after, obtains, fun artifact ok => (files.answer artifact ok).1.marked⟩

theorem compile (tidy : session.Tidy) (engine : Engine) (input : CompileInput) :
    ∃ result after, engine.compile input session = some (result, after) ∧
      ∀ template, result = .ok template → template.name = input.key := by
  obtain ⟨result, after, compiles, named⟩ := tidy.compileArtifact engine input
  unfold Engine.compile
  rw [compiles]
  cases result with
  | error error => exact ⟨_, after, rfl, fun _ failed => nomatch failed⟩
  | ok artifact =>
      refine ⟨_, after, rfl, fun template made => ?_⟩
      rw [Instance.name, Engine.artifact_of_newInstance made]
      exact named artifact rfl

/-- A template that is found by a name has that name. -/
theorem findTemplate (tidy : session.Tidy) (engine : Engine) (name : String) :
    ∃ result after, engine.findTemplate name session = some (result, after) ∧
      ∀ template, result = .ok (some template) → template.name = name := by
  have sought : (session.record (.templateSought name)).Tidy := tidy.congr rfl
  obtain ⟨looked, got⟩ := exists_get sought.idle name
  have kept : looked.Tidy := engine.keeps_tidy.get sought got
  have asked := engine.keeps_tidy.resolve kept name
  unfold Engine.findTemplate
  rw [got]
  cases listed : (session.record (.templateSought name)).cache.cached? name with
  | some artifact =>
      have named := (sought.filed name artifact (sought.orderly.listed.lists_iff.mpr listed)).marked
      obtain ⟨template, made, same, _⟩ := engine.exists_newInstance artifact
      simp only [made]
      refine ⟨_, looked, rfl, fun other ok => ?_⟩
      cases ok
      rw [Instance.name, same, named]
  | none =>
      rcases resolves : engine.resolve name looked with ⟨source, resolved⟩
      simp only [resolves] at asked ⊢
      cases source with
      | none =>
          refine ⟨_, resolved, rfl, fun template none => ?_⟩
          cases none
      | some source =>
          have tidy : (resolved.record (.templateResolved name)).Tidy := asked.congr rfl
          obtain ⟨result, after, compiles, named⟩ := tidy.compile engine
            ⟨some name, source.content, source.fileName, source.modelType⟩
          simp only [compiles]
          refine ⟨_, after, rfl, fun template ok => ?_⟩
          cases result with
          | error error => cases ok
          | ok made =>
              cases ok
              exact named template rfl

end Session.Tidy

end Templating
