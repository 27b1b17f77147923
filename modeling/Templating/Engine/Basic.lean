import Templating.Cache.Session
import Templating.Instance
import Templating.Text.FileName

/-!
Engines: pipelines by file extension, a resolver for names, and a cache.

An engine does not change once it is set up.  Its cache is part of the session that every
operation takes and gives back.
-/

namespace Templating

structure TemplateSource where
  content : String
  fileName : Option String := none
  modelType : ModelType := .dynamic
deriving DecidableEq, Repr

structure Resolver where
  resolve : String → Option TemplateSource
  /-- A cheaper way to tell whether a name resolves, if there is one. -/
  knows : Option (String → Bool) := none

def Resolver.ofTable (table : Fields TemplateSource) : Resolver where
  resolve := table.get?
  knows := some table.contains

structure Engine where
  config : Config := {}
  defaultPipeline : Option (Pipeline Body) := none
  /-- The pipelines for extensions, each in its normal form. -/
  pipelines : List (String × Pipeline Body) := []
  resolver : Option Resolver := none

namespace Engine

def withConfig (engine : Engine) (config : Config) : Engine :=
  { engine with config }

def withPipeline (engine : Engine) (pipeline : Pipeline Body) : Engine :=
  { engine with defaultPipeline := some pipeline }

/-- Sets the pipeline for an extension, over one that was set before. -/
def withPipelineFor (engine : Engine) (extension : String) (pipeline : Pipeline Body) : Engine :=
  let normal := FileName.normalExtension extension
  let others := engine.pipelines.filter fun entry => entry.1 ≠ normal
  { engine with pipelines := others ++ [(normal, pipeline)] }

def withResolver (engine : Engine) (resolver : Resolver) : Engine :=
  { engine with resolver := some resolver }

def options (engine : Engine) : PipelineOptions :=
  .ofConfig engine.config

/-- A session with the empty cache that the configuration asks for. -/
def start (engine : Engine) : Session Body :=
  ⟨.ofConfig engine.config, #[]⟩

/-- The pipeline for a file: that of its extension, or else the default one. -/
def pipelineFor (engine : Engine) (fileName : Option String) :
    Except UsageError (Pipeline Body) :=
  let byExtension := do
    let extension ← FileName.extension? (← fileName)
    engine.pipelines.lookup (FileName.normalExtension extension)
  match byExtension.or engine.defaultPipeline with
  | some pipeline => .ok pipeline
  | none => .error (.providerNotFound (fileName.getD "<inline>"))

/-- The artifact of an input, from the cache or through its pipeline.  Without a pipeline the
cache is not touched. -/
def compileArtifact (engine : Engine) (input : CompileInput) (session : Session Body) :
    Option (Except TemplateError (Shared (Artifact Body)) × Session Body) :=
  match engine.pipelineFor input.fileName with
  | .error error => some (.error (.usage error), session)
  | .ok pipeline => session.getOrCompile pipeline input engine.options

def newInstance (engine : Engine) (artifact : Shared (Artifact Body)) (model : Model) :
    Except TemplateError Instance :=
  (Instance.create engine.config artifact model).mapError .usage

/-- An instance of an input, without a model. -/
def compile (engine : Engine) (input : CompileInput) (session : Session Body) :
    Option (Except TemplateError Instance × Session Body) :=
  match engine.compileArtifact input session with
  | none => none
  | some (.error error, session) => some (.error error, session)
  | some (.ok artifact, session) => some (engine.newInstance artifact .none, session)

def resolve (engine : Engine) (name : String) (session : Session Body) :
    Option TemplateSource × Session Body :=
  match engine.resolver with
  | none => (none, session)
  | some resolver => (resolver.resolve name, session.record (.resolverAsked name))

/-- An instance of the template of a name, from the cache or from the resolver's text; no
instance, if neither knows the name. -/
def findTemplate (engine : Engine) (name : String) (session : Session Body) :
    Option (Except TemplateError (Option Instance) × Session Body) :=
  match (session.record (.templateSought name)).get name with
  | none => none
  | some (some artifact, session) =>
      some ((engine.newInstance artifact .none).map some, session)
  | some (none, session) =>
      match engine.resolve name session with
      | (none, session) => some (.ok none, session)
      | (some source, session) =>
          let input : CompileInput :=
            { name := some name
              content := source.content
              fileName := source.fileName
              modelType := source.modelType }
          match engine.compile input (session.record (.templateResolved name)) with
          | none => none
          | some (instance?, session) => some (instance?.map some, session)

/-- Whether a name is cached or resolves; nothing is compiled. -/
def hasTemplate (engine : Engine) (name : String) (session : Session Body) :
    Option (Bool × Session Body) :=
  match session.contains name with
  | none => none
  | some (true, session) => some (true, session)
  | some (false, session) =>
      match engine.resolver.bind Resolver.knows with
      | some knows => some (knows name, session)
      | none =>
          let (source, session) := engine.resolve name session
          some (source.isSome, session)

end Engine
end Templating
