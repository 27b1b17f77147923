import Templating.Context
import Templating.Engine.Basic
import Templating.Text.Quoted

/-!
Descriptions for developers, on one line.

A record is written with the names of its parts, and two dots stand for parts that are left
out.
-/

namespace Templating

namespace Inspect

/-- Texts with commas between them. -/
def listed (texts : List String) : String :=
  String.intercalate ", " texts

def braced (name : String) (parts : List (String × String)) (whole : Bool) : String :=
  let shown := parts.map fun (part, text) => part ++ ": " ++ text
  name ++ " \x7b " ++ listed (if whole then shown else shown ++ [".."]) ++ " \x7d"

def bool (value : Bool) : String :=
  if value then "true" else "false"

def optional (value : Option String) : String :=
  match value with
  | some text => "Some(" ++ text ++ ")"
  | none => "None"

def texts (values : List String) : String :=
  "[" ++ listed (values.map Text.quoted) ++ "]"

end Inspect

open Inspect

mutual

def Value.inspect : Value → String
  | .null => "Null"
  | .bool value => "Bool(" ++ Inspect.bool value ++ ")"
  | .int value => "Int(" ++ toString value.toInt ++ ")"
  | .float value => "Float(" ++ value.render .inspect ++ ")"
  | .text value => "Str(" ++ Text.quoted value ++ ")"
  | .raw markup => "Raw(" ++ Text.quoted markup ++ ")"
  | .list items => "List([" ++ listed (Value.inspectItems items) ++ "])"
  | .map entries => "Map(\x7b" ++ listed (Value.inspectEntries entries) ++ "\x7d)"

def Value.inspectItems : List Value → List String
  | [] => []
  | item :: rest => item.inspect :: Value.inspectItems rest

def Value.inspectEntries : List (String × Value) → List String
  | [] => []
  | (name, value) :: rest =>
      (Text.quoted name ++ ": " ++ value.inspect) :: Value.inspectEntries rest

end

def ModelType.inspect (type : ModelType) : String :=
  "ModelType(" ++ Text.quoted type.name ++ ")"

def Model.inspect : Model → String
  | .none => "None"
  | .typed model =>
      "Typed(" ++ braced "TypedModel" [("model_type", model.modelType.inspect)] false ++ ")"
  | .dynamic fields => "Dynamic(\x7b" ++ listed (Value.inspectEntries fields.entries) ++ "\x7d)"

def Artifact.inspect (artifact : Artifact L) : String :=
  braced "CompiledArtifact"
    [("key", Text.quoted artifact.key),
      ("fingerprint", "Fingerprint(" ++ Text.quoted artifact.fingerprint.text ++ ")"),
      ("model_type", artifact.modelType.inspect),
      ("file_name", optional (artifact.fileName.map Text.quoted))] false

def Instance.inspect (template : Instance) : String :=
  braced "TemplateInstance"
    [("name", Text.quoted template.name),
      ("model", template.model.inspect),
      ("layout", optional (template.layout.map Text.quoted))] false

def Encoding.inspect : Encoding → String
  | .html => "Html"
  | .raw => "Raw"

def RenderState.inspect : RenderState → String
  | .idle => "Idle"
  | .executing => "Executing"
  | .layoutChaining => "LayoutChaining"

def FailurePolicy.inspect : FailurePolicy → String
  | .retry => "Retry"
  | .remember => "Remember"

def Config.inspect (config : Config) : String :=
  braced "EngineConfig"
    [("debug", Inspect.bool config.debug),
      ("namespaces", texts config.namespaces),
      ("references", texts config.references),
      ("encoding", config.encoding.inspect),
      ("cache_capacity", optional (config.cacheCapacity.map toString)),
      ("failure_policy", config.failurePolicy.inspect)] true

def Engine.inspect (engine : Engine) (session : Session Body) : String :=
  braced "Engine"
    [("config", engine.config.inspect),
      ("cached", toString session.cache.size),
      ("extensions", texts (engine.pipelines.map Prod.fst)),
      ("resolver", Inspect.bool engine.resolver.isSome)] true

end Templating
