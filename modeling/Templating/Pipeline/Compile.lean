import Templating.Journal

/-!
One cycle of generating and compiling.
-/

namespace Templating

namespace Pipeline

/-- Calls the generator of a pipeline, and tells of the call. -/
def callGenerate (pipeline : Pipeline L) (request : GenerateRequest) : GenerateOutput × Event :=
  (pipeline.generate request, .generateCalled pipeline.label request)

/-- Calls the compiler of a pipeline, and tells of the call. -/
def callCompile (pipeline : Pipeline L) (request : CompileRequest) : CompileOutput L × Event :=
  (pipeline.compile request, .compileCalled pipeline.label request)

end Pipeline

/-- Runs a pipeline over an input: the artifact or the error, and what happened on the way.
A failed generation ends the cycle, and a compiler has to report success and to hand something
back. -/
def compileTemplate (pipeline : Pipeline L) (input : CompileInput) (options : PipelineOptions) :
    Except TemplateError (Artifact L) × List Event :=
  let (generated, generateCall) := pipeline.callGenerate
    { content := input.content
      fileName := input.fileName
      modelTypeName := input.modelType.name
      namespaces := options.namespaces }
  match generated.success with
  | false => (.error (.generation generated.diagnostics), [generateCall])
  | true =>
      let (compiled, compileCall) := pipeline.callCompile
        { generatedSource := generated.generatedSource
          references := options.references
          debugInfo := options.debug }
      let events :=
        generateCall :: generated.diagnostics.map (Event.generateWarned input.key) ++ [compileCall]
      match compiled.success, compiled.loadable with
      | true, some loadable =>
          (.ok
            { key := input.key
              fingerprint := input.fingerprint
              modelType := input.modelType
              fileName := input.fileName
              generatedSource := generated.generatedSource
              loadable }, events)
      | _, _ => (.error (.compilation compiled.diagnostics generated.generatedSource), events)

end Templating
