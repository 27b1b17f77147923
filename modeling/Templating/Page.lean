import Templating.Context
import Templating.Engine.Basic

/-!
The page that a body renders through: its output and layout, and the context of its chain.

`Page.answer` answers one callback, and `Body.run` runs a body on a page.  How an included
template is rendered is a parameter, because that takes whole chains.
-/

namespace Templating

structure Page where
  output : String := ""
  /-- The layout that the template is to be rendered inside. -/
  layout : Option String
  context : Context
  session : Session Body

namespace Page

def start (template : Instance) (context : Context) (session : Session Body) : Page where
  layout := template.layout
  context := context
  session := session

def record (page : Page) (event : Event) : Page :=
  { page with session := page.session.record event }

def defineSection (page : Page) (name : String) (producer : Producer) :
    Except TemplateError Unit × Page :=
  match page.context.defineSection name producer with
  | .error error => (.error (.usage error), page)
  | .ok context => (.ok (), { page with context }.record (.sectionDefined name))

/-- Takes the body that was captured last out of the context. -/
def renderBody (page : Page) : Except TemplateError Producer × Page :=
  match page.context.popBody with
  | .error error => (.error (.usage error), page)
  | .ok (body, context) => (.ok body, { page with context })

def typedModel (model : Model) (type : ModelType) : Except TemplateError Value :=
  match model.downcast? type with
  | some content => .ok content
  | none => .error (.usage (.modelTypeMismatch type.name model.modelType.name))

def answer (engine : Engine) (template : Instance) (page : Page) :
    (callback : Callback) → Option (callback.Reply × Page)
  | .write value =>
      some ((), { page with output := value.write page.output engine.config.encoding })
  | .writeLiteral value => some ((), { page with output := value.writeLiteral page.output })
  | .writeAttribute declared =>
      some ((), { page with output := declared.write page.output engine.config.encoding })
  | .output => some (page.output, page)
  | .setLayout name => some ((), { page with layout := some name })
  | .layout => some (page.layout, page)
  | .renderBody => some page.renderBody
  | .defineSection name producer => some (page.defineSection name producer)
  | .renderSection name required =>
      some ((page.context.renderSection name required).mapError .usage, page)
  | .isSectionDefined name => some (page.context.isSectionDefined name, page)
  | .model => some (template.model, page)
  | .field name => some (template.model.field? name, page)
  | .typedModel type => some (typedModel template.model type, page)
  | .viewBag => some (page.context.viewBag, page)
  | .setInBag name value =>
      let (previous, bag) := ViewBag.set page.context.viewBag name value
      some (previous, { page with context := { page.context with viewBag := bag } })
  | .removeFromBag name =>
      let (previous, bag) := ViewBag.remove page.context.viewBag name
      some (previous, { page with context := { page.context with viewBag := bag } })
  | .templateName => some (template.name, page)
  | .compile input =>
      match engine.compile input page.session with
      | none => none
      | some (compiled, session) => some (compiled.map Instance.name, { page with session })
  | .note text => some ((), page.record (.noted text))

end Page

/-- Renders a template by name with a model and a copy of a view bag. -/
abbrev Includer :=
  String → Model → ViewBag → Session Body → Option (Except TemplateError String × Session Body)

/-- Runs a body on a page; no result, if a request of the body has none. -/
def Body.run (engine : Engine) (template : Instance) (includer : Includer) :
    Body → Page → Option (Except TemplateError Unit × Page)
  | .done result, page => some (result, page)
  | .call callback next, page =>
      match page.answer engine template callback with
      | none => none
      | some (reply, page) => (next reply).run engine template includer page
  | .captureSection name inner next, page =>
      if page.context.isSectionDefined name then
        (next (.error (.usage (.duplicateSection name)))).run engine template includer page
      else
        match inner.run engine template includer { page with output := "" } with
        | none => none
        | some (.error error, inside) =>
            (next (.error error)).run engine template includer { inside with output := page.output }
        | some (.ok (), inside) =>
            let restored := { inside with output := page.output }
            let (result, page) := restored.defineSection name (.rendered inside.output)
            (next result).run engine template includer page
  | .includeTemplate name model next, page =>
      match includer name model page.context.viewBag page.session with
      | none => none
      | some (result, session) =>
          (next (result.map .rendered)).run engine template includer { page with session }

end Templating
