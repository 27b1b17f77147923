import Templating.Fields
import Templating.Value.Basic

/-!
Models and the types that templates are compiled for.

A model type is known by its name alone.  A typed model is a value together with the type that
it belongs to, and only that type gets the value out again.  The content of a typed model is a
`Value` here, whatever its type; nothing looks into it.
-/

namespace Templating

/-- The type of a model, by name. -/
structure ModelType where
  name : String
deriving DecidableEq, Repr, Ord

namespace ModelType

/-- The type of templates that take an open set of named fields. -/
def dynamic : ModelType := ⟨"dynamic"⟩

instance : Inhabited ModelType := ⟨dynamic⟩

def isDynamic (type : ModelType) : Bool :=
  type = dynamic

end ModelType

structure TypedModel where
  modelType : ModelType
  content : Value

namespace TypedModel

/-- The content of a model of exactly the type asked for. -/
def downcast? (model : TypedModel) (type : ModelType) : Option Value :=
  if model.modelType = type then some model.content else none

end TypedModel

inductive Model where
  | none
  | typed (model : TypedModel)
  | dynamic (fields : Fields Value)

namespace Model

instance : Inhabited Model := ⟨.none⟩

/-- The type that a template has to be compiled for in order to be rendered with the model. -/
def modelType : Model → ModelType
  | .typed model => model.modelType
  | .none => .dynamic
  | .dynamic _ => .dynamic

def downcast? (model : Model) (type : ModelType) : Option Value :=
  match model with
  | .typed model => model.downcast? type
  | _ => Option.none

def field? (model : Model) (name : String) : Option Value :=
  match model with
  | .dynamic fields => fields.get? name
  | _ => Option.none

def isNone : Model → Bool
  | .none => true
  | _ => false

end Model
end Templating
