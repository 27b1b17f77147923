import Templating.Page

/-!
Rendering: a template, then its layout, then the layout's layout, until one names none.

The output of each template is captured and left to its layout as a body.  Templates can name
one another in a circle, so that rendering need not end: every function takes a bound on how
deep layouts and included templates may follow one another, and has no result when the bound
does not suffice.  A result that a bound suffices for is the result for every larger bound.
-/

namespace Templating

/-- What rendering comes to, with the context and the session that it leaves. -/
structure Rendered where
  result : Except TemplateError String
  context : Context
  session : Session Body

/-- Ends a chain: the context is idle, and after a failure the chain's captured bodies and
sections are gone. -/
def Rendered.finish (rendered : Rendered) : Rendered :=
  let context :=
    match rendered.result with
    | .ok _ => rendered.context
    | .error _ => rendered.context.resetChain
  { rendered with context := { context with state := .idle } }

abbrev Chain := Instance → Context → Session Body → Option Rendered

namespace Engine

/-- Binds a model and runs a chain to its end.  A model that the template does not take leaves
the context alone. -/
def runInstance (chain : Chain) (template : Instance) (model : Model) (context : Context)
    (session : Session Body) : Option Rendered :=
  match template.bindModel model with
  | .error error => some ⟨.error (.usage error), context, session⟩
  | .ok template => (chain template context session).map Rendered.finish

/-- Renders a template for a body that includes it, in a context of its own with a copy of the view
bag of the body's chain. -/
def includeNamed (engine : Engine) (chain : Chain) : Includer := fun name model bag session =>
  match engine.findTemplate name session with
  | none => none
  | some (found, session) =>
      match found with
      | .error error => some (.error error, session)
      | .ok none => some (.error (.usage (.templateNotFound name)), session)
      | .ok (some template) =>
          match runInstance chain template model (.withViewBag bag) session with
          | none => none
          | some rendered => some (rendered.result, rendered.session)

/-- Renders the template of a name in a context of its own. -/
def runNamed (engine : Engine) (chain : Chain) : Includer := fun name model bag session =>
  match engine.findTemplate name session with
  | none => none
  | some (.error error, session) => some (.error error, session)
  | some (.ok none, session) => some (.error (.usage (.templateNotFound name)), session)
  | some (.ok (some template), session) =>
      (runInstance chain template model (.withViewBag bag) session).map fun rendered =>
        (rendered.result, rendered.session)

/-- The template that continues a chain as the layout of `template`, with the same model. -/
def layoutOf (engine : Engine) (template : Instance) (layout : String) (session : Session Body) :
    Option (Except TemplateError Instance × Session Body) :=
  match engine.findTemplate layout session with
  | none => none
  | some (.error error, session) => some (.error error, session)
  | some (.ok none, session) => some (.error (.usage (.layoutNotFound layout)), session)
  | some (.ok (some next), session) =>
      some ((next.bindModel template.model).mapError .usage, session)

/-- Runs a template and the layouts that follow it. -/
def chain (engine : Engine) : Nat → Chain
  | 0, _, _, _ => none
  | bound + 1, template, context, session =>
      let page := Page.start template { context with state := .executing } session
      match template.body.run engine template (engine.includeNamed (engine.chain bound)) page with
      | none => none
      | some (.error error, page) => some ⟨.error error, page.context, page.session⟩
      | some (.ok (), page) =>
          match page.layout with
          | none => some ⟨.ok page.output, page.context, page.session⟩
          | some layout =>
              let context :=
                { page.context with state := .layoutChaining }.pushBody (.rendered page.output)
              let session := page.session.record (.layoutChained template.name layout)
              match engine.layoutOf template layout session with
              | none => none
              | some (.error error, session) => some ⟨.error error, context, session⟩
              | some (.ok next, session) => engine.chain bound next context session

def render (engine : Engine) (bound : Nat) (template : Instance) (model : Model)
    (context : Context) (session : Session Body) : Option Rendered :=
  runInstance (engine.chain bound) template model context session

def run (engine : Engine) (bound : Nat) (name : String) (model : Model) (bag : ViewBag)
    (session : Session Body) : Option (Except TemplateError String × Session Body) :=
  engine.runNamed (engine.chain bound) name model bag session

/-- Compiles a text for the type of a model and renders it. -/
def parse (engine : Engine) (bound : Nat) (content : String) (model : Model) (bag : ViewBag)
    (session : Session Body) : Option (Except TemplateError String × Session Body) :=
  match engine.compile { content, modelType := model.modelType } session with
  | none => none
  | some (.error error, session) => some (.error error, session)
  | some (.ok template, session) =>
      (engine.render bound template model (.withViewBag bag) session).map fun rendered =>
        (rendered.result, rendered.session)

end Engine
end Templating
