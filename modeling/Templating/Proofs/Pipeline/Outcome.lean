import Templating.Pipeline.Compile
import Templating.Pipeline.Static

/-!
What a pipeline makes of an input.

A pipeline sees of an input its content, file and model type, which are also what the fingerprint is
computed from, and what it makes is marked with the key.
-/

namespace Templating

variable {L : Type u} {pipeline : Pipeline L} {options : PipelineOptions}

theorem compileTemplate_congr {first second : CompileInput} (key : first.key = second.key)
    (content : first.content = second.content) (fileName : first.fileName = second.fileName)
    (modelType : first.modelType = second.modelType) :
    compileTemplate pipeline first options = compileTemplate pipeline second options := by
  have fingerprint : first.fingerprint = second.fingerprint := by
    simp only [CompileInput.fingerprint, content, fileName, modelType]
  simp only [compileTemplate, key, content, fileName, modelType, fingerprint]

/-! ## The two answers of a pipeline -/

namespace Pipeline

def generateRequest (input : CompileInput) (options : PipelineOptions) : GenerateRequest where
  content := input.content
  fileName := input.fileName
  modelTypeName := input.modelType.name
  namespaces := options.namespaces

def generated (pipeline : Pipeline L) (input : CompileInput) (options : PipelineOptions) :
    GenerateOutput :=
  pipeline.generate (generateRequest input options)

def compileRequest (pipeline : Pipeline L) (input : CompileInput) (options : PipelineOptions) :
    CompileRequest where
  generatedSource := (pipeline.generated input options).generatedSource
  references := options.references
  debugInfo := options.debug

def compiled (pipeline : Pipeline L) (input : CompileInput) (options : PipelineOptions) :
    CompileOutput L :=
  pipeline.compile (pipeline.compileRequest input options)

/-- What is recorded of a cycle that has come to its compiler. -/
def calledFor (pipeline : Pipeline L) (input : CompileInput) (options : PipelineOptions) : List Event :=
  .generateCalled pipeline.label (generateRequest input options) ::
    (pipeline.generated input options).diagnostics.map (.generateWarned input.key) ++
    [.compileCalled pipeline.label (pipeline.compileRequest input options)]

/-- The three ways in which a cycle of generating and compiling ends. -/
inductive Cycle (pipeline : Pipeline L) (input : CompileInput) (options : PipelineOptions) :
    Except TemplateError (Artifact L) × List Event → Prop where
  | ungenerated (failed : (pipeline.generated input options).success = false) :
      Cycle pipeline input options
        (.error (.generation (pipeline.generated input options).diagnostics),
          [.generateCalled pipeline.label (generateRequest input options)])
  | refused (generated : (pipeline.generated input options).success = true)
      (refused : (pipeline.compiled input options).success = false ∨
        (pipeline.compiled input options).loadable = none) :
      Cycle pipeline input options
        (.error (.compilation (pipeline.compiled input options).diagnostics
          (pipeline.generated input options).generatedSource), pipeline.calledFor input options)
  | compiled (generated : (pipeline.generated input options).success = true)
      (success : (pipeline.compiled input options).success = true)
      (handed : (pipeline.compiled input options).loadable = some loadable) :
      Cycle pipeline input options
        (.ok
          { key := input.key
            fingerprint := input.fingerprint
            modelType := input.modelType
            fileName := input.fileName
            generatedSource := (pipeline.generated input options).generatedSource
            loadable }, pipeline.calledFor input options)

theorem compileTemplate_cycle (pipeline : Pipeline L) (input : CompileInput)
    (options : PipelineOptions) :
    pipeline.Cycle input options (compileTemplate pipeline input options) := by
  simp only [compileTemplate, callGenerate, callCompile]
  split
  · next failed => exact .ungenerated failed
  · next generated =>
      split
      · next loadable success handed => exact .compiled generated success handed
      · next other =>
          refine .refused generated ?_
          cases success : (pipeline.compiled input options).success with
          | false => exact .inl rfl
          | true =>
              refine .inr (Option.eq_none_iff_forall_ne_some.mpr fun loadable handed => ?_)
              exact other loadable success handed

end Pipeline

/-! ## Artifacts -/

/-- An artifact is marked with the key, the fingerprint and the model type of its input, and holds what
the compiler handed back. -/
theorem compileTemplate_eq_ok {input : CompileInput} {artifact : Artifact L}
    (compiles : (compileTemplate pipeline input options).1 = .ok artifact) :
    artifact.key = input.key ∧ artifact.fingerprint = input.fingerprint ∧
      artifact.modelType = input.modelType ∧
      ∃ request, (pipeline.compile request).loadable = some artifact.loadable := by
  have cycle := pipeline.compileTemplate_cycle input options
  generalize compileTemplate pipeline input options = ended at cycle compiles
  cases cycle with
  | ungenerated | refused => contradiction
  | compiled generated success handed =>
      cases compiles
      exact ⟨rfl, rfl, rfl, _, handed⟩

namespace StaticPipeline

variable {static : StaticPipeline L} {label : Nat}

/-- What the compiler hands back was registered for the source that it was given. -/
theorem mem_of_compile {request : CompileRequest} {loadable : L}
    (handed : ((static.pipeline label).compile request).loadable = some loadable) :
    (request.generatedSource, loadable) ∈ static.bodies := by
  simp only [pipeline, compile] at handed
  split at handed
  · next registered found =>
      cases handed
      obtain ⟨front, back, split, _⟩ := List.lookup_eq_some_iff.mp found
      simp [split]
  · cases handed

/-- What a template is compiled to was registered for its text. -/
theorem mem_of_compileTemplate {input : CompileInput} {artifact : Artifact L}
    (compiles : (compileTemplate (static.pipeline label) input options).1 = .ok artifact) :
    (input.content, artifact.loadable) ∈ static.bodies := by
  have cycle := (static.pipeline label).compileTemplate_cycle input options
  generalize compileTemplate (static.pipeline label) input options = ended at cycle compiles
  cases cycle with
  | ungenerated | refused => contradiction
  | compiled generates success handed =>
      cases compiles
      have same : ((static.pipeline label).generated input options).generatedSource = input.content := by
        simp only [Pipeline.generated, Pipeline.generateRequest, pipeline, generate] at generates ⊢
        split at generates <;> simp_all [GenerateOutput.succeeded, GenerateOutput.failed]
      have member := mem_of_compile handed
      rwa [Pipeline.compileRequest, same] at member

end StaticPipeline

/-- Two inputs have the same fingerprint only if they agree in all that a fingerprint is computed
from. -/
def CompileInput.CollisionFree (inputs : List CompileInput) : Prop :=
  ∀ first ∈ inputs, ∀ second ∈ inputs, first.fingerprint = second.fingerprint →
    first.content = second.content ∧ first.fileName = second.fileName ∧
      first.modelType = second.modelType

end Templating
