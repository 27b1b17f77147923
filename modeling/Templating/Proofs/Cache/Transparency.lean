import Templating.Pipeline.Static
import Templating.Proofs.Cache.Completion
import Templating.Proofs.Cache.Provenance
import Templating.Proofs.Pipeline.Outcome

/-!
A cache in front of a pipeline does not show in what is compiled.

Every answer is explained by a call on the same key, and what a pipeline makes of an input is told
by its key and by what its fingerprint is computed from.  So where fingerprints do not collide an
answer is what the pipeline makes of the input that was asked for.
-/

namespace Templating

variable {L : Type u} {pipeline : Pipeline L} {options : PipelineOptions}

/-- A call to a cache in front of a pipeline. -/
inductive TemplateCall where
  | compile (input : CompileInput)
  | get (key : String)
  | contains (key : String)
  | remove (key : String)
  | clear
  | size
  | keys

namespace TemplateCall

def toCall (pipeline : Pipeline L) (options : PipelineOptions) : TemplateCall → Call L
  | .compile input =>
      .obtain input.key input.fingerprint (compileTemplate pipeline input options).1
  | .get key => .get key
  | .contains key => .contains key
  | .remove key => .remove key
  | .clear => .clear
  | .size => .size
  | .keys => .keys

def input? : TemplateCall → Option CompileInput
  | .compile input => some input
  | _ => none

theorem mem_inputs {calls : List TemplateCall} {input : CompileInput}
    (asked : .compile input ∈ calls) : input ∈ calls.filterMap input? :=
  List.mem_filterMap.mpr ⟨_, asked, rfl⟩

theorem input_of_obtain {calls : List TemplateCall} {key : String} {fingerprint : Fingerprint}
    {outcome : Except TemplateError (Artifact L)}
    (member : .obtain key fingerprint outcome ∈ calls.map (toCall pipeline options)) :
    ∃ input, .compile input ∈ calls ∧ input.key = key ∧ input.fingerprint = fingerprint ∧
      (compileTemplate pipeline input options).1 = outcome := by
  obtain ⟨call, asked, same⟩ := List.mem_map.mp member
  cases call with
  | compile input =>
      cases same
      exact ⟨input, asked, rfl, rfl, rfl⟩
  | _ => contradiction

/-- What explains an answer for an input is the outcome of compiling that input. -/
theorem eq_of_explains {calls : List TemplateCall} {input : CompileInput}
    {result : Except TemplateError (Artifact L)}
    (collisionFree : CompileInput.CollisionFree (calls.filterMap input?))
    (asked : .compile input ∈ calls)
    (explains : Explains (calls.map (toCall pipeline options)) input.key input.fingerprint result) :
    result = (compileTemplate pipeline input options).1 := by
  have same {other : CompileInput} (member : .compile other ∈ calls)
      (key : other.key = input.key) (fingerprint : other.fingerprint = input.fingerprint) :
      compileTemplate pipeline other options = compileTemplate pipeline input options := by
    obtain ⟨content, fileName, modelType⟩ :=
      collisionFree other (mem_inputs member) input (mem_inputs asked) fingerprint
    exact compileTemplate_congr key content fileName modelType
  cases explains with
  | asked member =>
      obtain ⟨other, here, key, fingerprint, compiles⟩ := input_of_obtain member
      rw [← compiles, same here key fingerprint]
  | cached member fits =>
      obtain ⟨other, here, key, _, compiles⟩ := input_of_obtain member
      have fingerprint := (compileTemplate_eq_ok compiles).2.1.symm.trans fits
      rw [← compiles, same here key fingerprint]

/-- Through whatever cache, alongside whatever calls and in whatever order of steps, an input is
answered with what the pipeline makes of it. -/
theorem answers_eq_compileTemplate (pipeline : Pipeline L) (options : PipelineOptions)
    (capacity : Option Nat) (failurePolicy : FailurePolicy) (calls : List TemplateCall)
    (collisionFree : CompileInput.CollisionFree (calls.filterMap input?)) :
    (Machine.start (.create capacity failurePolicy)
      (calls.map (toCall pipeline options))).Completes ∧
    ∀ machine, Machine.Reachable (.start (.create capacity failurePolicy)
        (calls.map (toCall pipeline options))) machine →
      ∀ index input answer, calls[index]? = some (.compile input) →
        machine.answer? index = some answer →
        ∃ result compiled, answer = .obtained result compiled ∧
          result.map Shared.content = (compileTemplate pipeline input options).1 := by
  refine ⟨Machine.start_completes rfl (Cache.create_listed capacity failurePolicy) _, ?_⟩
  intro machine reachable index input answer asked answered
  obtain ⟨owner, explained⟩ := reachable.explained
  obtain ⟨call, found⟩ := Machine.caller_of_answer? answered
  have call_eq : call = toCall pipeline options (.compile input) := by
    have listed := Machine.call_of_callers reachable.calls_eq found
    simpa [asked] using listed.symm
  subst call
  obtain ⟨result, compiled, rfl, explains⟩ :=
    (explained.callers _ (List.mem_of_getElem? found)).2
  exact ⟨result, compiled, rfl,
    eq_of_explains collisionFree (List.mem_of_getElem? asked) explains⟩

/-- A name that is used for two texts, one of which is also asked for without a name and by a name
that looks like its fingerprint. -/
def reusedName : List TemplateCall :=
  [.compile { name := some "page", content := "a" }, .compile { content := "a" },
    .compile { name := some "page", content := "b" },
    .compile { name := some ({ content := "a" } : CompileInput).key, content := "b" },
    .remove "page", .get "page", .clear]

theorem reusedName_inputs {input : CompileInput} (asked : input ∈ reusedName.filterMap input?) :
    (input.content = "a" ∨ input.content = "b") ∧ input.fileName = none ∧
      input.modelType = .dynamic := by
  simp only [reusedName, input?, List.filterMap_cons, List.filterMap_nil, List.mem_cons,
    List.not_mem_nil, or_false] at asked
  rcases asked with rfl | rfl | rfl | rfl
  · exact ⟨.inl rfl, rfl, rfl⟩
  · exact ⟨.inl rfl, rfl, rfl⟩
  · exact ⟨.inr rfl, rfl, rfl⟩
  · exact ⟨.inr rfl, rfl, rfl⟩

theorem reusedName_collisionFree :
    CompileInput.CollisionFree (reusedName.filterMap input?) := by
  have different : Fingerprint.compute "a" none .dynamic ≠ .compute "b" none .dynamic := by
    decide +kernel
  intro first asked second other same
  obtain ⟨content, fileName, modelType⟩ := reusedName_inputs asked
  obtain ⟨content', fileName', modelType'⟩ := reusedName_inputs other
  refine ⟨?_, fileName.trans fileName'.symm, modelType.trans modelType'.symm⟩
  simp only [CompileInput.fingerprint, fileName, fileName', modelType, modelType'] at same
  rcases content with content | content <;> rcases content' with content' | content' <;>
    rw [content, content'] at same ⊢
  · exact (different same).elim
  · exact (different same.symm).elim

theorem reusedName_answers :
    (Machine.start (.create (some 1) .remember) (reusedName.map (toCall
      (StaticPipeline.ofRegistrations [("a", 1)]).pipeline {}))).Completes ∧
    ∀ machine, Machine.Reachable (.start (.create (some 1) .remember) (reusedName.map (toCall
        (StaticPipeline.ofRegistrations [("a", 1)]).pipeline {}))) machine →
      ∀ index input answer, reusedName[index]? = some (.compile input) →
        machine.answer? index = some answer →
        ∃ result compiled, answer = .obtained result compiled ∧
          result.map Shared.content = (compileTemplate
            (StaticPipeline.ofRegistrations [("a", 1)]).pipeline input {}).1 :=
  answers_eq_compileTemplate _ {} (some 1) .remember reusedName reusedName_collisionFree

end TemplateCall
end Templating
