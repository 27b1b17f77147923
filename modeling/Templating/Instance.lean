import Templating.Body
import Templating.Cache.Basic

/-!
Instances: a compiled template with a model.
-/

namespace Templating

structure DebugInfo where
  name : String
  fileName : Option String
  generatedSource : String
deriving DecidableEq, Repr

structure Instance where
  artifact : Shared (Artifact Body)
  model : Model := .none
  /-- The layout that a render starts with; the body may change it. -/
  layout : Option String := none
  debugInfo : Option DebugInfo := none

/-- Templates for the dynamic model take any model; templates for another type take no model or
one of exactly that type. -/
def ModelType.check (expected : ModelType) (model : Model) : Except UsageError Unit :=
  if expected.isDynamic then .ok ()
  else
    match model with
    | .none => .ok ()
    | .typed typed =>
        if typed.modelType = expected then .ok ()
        else .error (.modelTypeMismatch expected.name typed.modelType.name)
    | .dynamic _ => .error (.modelTypeMismatch expected.name ModelType.dynamic.name)

namespace Instance

def name (template : Instance) : String :=
  template.artifact.content.key

def modelType (template : Instance) : ModelType :=
  template.artifact.content.modelType

def body (template : Instance) : Body :=
  template.artifact.content.loadable

def create (config : Config) (artifact : Shared (Artifact Body)) (model : Model) :
    Except UsageError Instance :=
  match artifact.content.modelType.check model with
  | .error error => .error error
  | .ok () =>
      let debugInfo : DebugInfo :=
        { name := artifact.content.key
          fileName := artifact.content.fileName
          generatedSource := artifact.content.generatedSource }
      .ok
        { artifact
          model
          debugInfo := if config.debug then some debugInfo else none }

/-- Replaces the model by one that the template takes. -/
def bindModel (template : Instance) (model : Model) : Except UsageError Instance :=
  match template.modelType.check model with
  | .error error => .error error
  | .ok () => .ok { template with model }

/-- Binds a model in place; a model that the template does not take leaves the one before. -/
def rebind (template : Instance) (model : Model) : Except UsageError Unit × Instance :=
  match template.bindModel model with
  | .error error => (.error error, template)
  | .ok bound => (.ok (), bound)

def withLayout (template : Instance) (layout : String) : Instance :=
  { template with layout := some layout }

end Instance
end Templating
