import Templating.Error
import Templating.Markup.Attribute
import Templating.Model
import Templating.Pipeline.Basic
import Templating.Producer
import Templating.ViewBag

/-!
The bodies of compiled templates.

A body is a tree of what it asks its page to do.  Each node makes one request and goes on with
the reply, so that what a body does next may depend on every reply it has had; a leaf ends the
body, with success or with an error.  `handle` runs one body after another, and `recover` lets
a body go on after an error.

Of what an engine offers, a body can ask for a compile and include a template.  It cannot start a
render of its own or use the cache directly.
-/

namespace Templating

/-- What a body can ask its page to do, apart from running another body. -/
inductive Callback where
  /-- Writes a value on the encoded path. -/
  | write (value : Value)
  /-- Writes a value on the literal path. -/
  | writeLiteral (value : Value)
  | writeAttribute (declared : Attribute)
  /-- The text that the template has written so far. -/
  | output
  | setLayout (name : String)
  | layout
  /-- The captured body of the template that this one is the layout of. -/
  | renderBody
  | defineSection (name : String) (producer : Producer)
  | renderSection (name : String) (required : Bool)
  | isSectionDefined (name : String)
  | model
  | field (name : String)
  | typedModel (type : ModelType)
  | viewBag
  | setInBag (name : String) (value : Value)
  | removeFromBag (name : String)
  | templateName
  /-- Compiles a template and gives back its name. -/
  | compile (input : CompileInput)
  | note (text : String)

def Callback.Reply : Callback → Type
  | .write _ | .writeLiteral _ | .writeAttribute _ | .setLayout _ | .note _ => Unit
  | .output | .templateName => String
  | .layout => Option String
  | .renderBody | .renderSection _ _ => Except TemplateError Producer
  | .defineSection _ _ => Except TemplateError Unit
  | .isSectionDefined _ => Bool
  | .model => Model
  | .field _ | .setInBag _ _ | .removeFromBag _ => Option Value
  | .typedModel _ => Except TemplateError Value
  | .viewBag => ViewBag
  | .compile _ => Except TemplateError String

inductive Body where
  | done (result : Except TemplateError Unit)
  | call (callback : Callback) (next : callback.Reply → Body)
  /-- Runs a body into an empty output and defines a section with what it wrote. -/
  | captureSection (name : String) (inner : Body) (next : Except TemplateError Unit → Body)
  /-- Renders another template in a context of its own. -/
  | includeTemplate (name : String) (model : Model)
      (next : Except TemplateError Producer → Body)

namespace Body

instance : Inhabited Body := ⟨.done (.ok ())⟩

def skip : Body := .done (.ok ())

def fail (error : TemplateError) : Body := .done (.error error)

def handle : Body → (Except TemplateError Unit → Body) → Body
  | .done result, next => next result
  | .call callback after, next => .call callback fun reply => (after reply).handle next
  | .captureSection name inner after, next =>
      .captureSection name inner fun result => (after result).handle next
  | .includeTemplate name model after, next =>
      .includeTemplate name model fun result => (after result).handle next

/-- Goes on with a second body if the first one succeeds. -/
def andThen (first second : Body) : Body :=
  first.handle fun
    | .ok () => second
    | .error error => fail error

/-- Runs bodies one after the other up to the first error. -/
def sequence : List Body → Body
  | [] => skip
  | first :: rest => first.andThen (sequence rest)

/-- Goes on after an error; what was written or changed before stays. -/
def recover (body : Body) (handler : TemplateError → Body) : Body :=
  body.handle fun
    | .ok () => skip
    | .error error => handler error

def ask (callback : Callback) : Body :=
  .call callback fun _ => skip

/-- Goes on with a reply unless it is an error. -/
def orFail (next : α → Body) : Except TemplateError α → Body
  | .ok value => next value
  | .error error => fail error

/-- Writes the text that a request has given as it is. -/
def place : Except TemplateError Producer → Body :=
  orFail fun producer => ask (.writeLiteral (toValue producer))

end Body
end Templating
