import Templating.Error
import Templating.Producer
import Templating.ViewBag

/-!
What the templates of one render chain share: the view bag, the captured bodies that wait to be
placed, and the sections that have been defined.
-/

namespace Templating

/-- Where a render chain is. -/
inductive RenderState where
  | idle
  | executing
  | layoutChaining
deriving DecidableEq, Repr, Inhabited

structure Context where
  viewBag : ViewBag := .empty
  /-- The captured bodies, the latest first. -/
  bodies : List Producer := []
  sections : Fields Producer := .empty
  state : RenderState := .idle

namespace Context

instance : Inhabited Context := ⟨{}⟩

def withViewBag (bag : ViewBag) : Context :=
  { viewBag := bag }

def pushBody (context : Context) (body : Producer) : Context :=
  { context with bodies := body :: context.bodies }

/-- Takes the body that was captured last. -/
def popBody (context : Context) : Except UsageError (Producer × Context) :=
  match context.bodies with
  | [] => .error .emptyBodyStack
  | body :: rest => .ok (body, { context with bodies := rest })

def pendingBodies (context : Context) : Nat :=
  context.bodies.length

/-- Drops captured bodies and sections and keeps the view bag. -/
def resetChain (context : Context) : Context :=
  { context with bodies := [], sections := .empty }

def isSectionDefined (context : Context) (name : String) : Bool :=
  context.sections.contains name

/-- A section is defined once. -/
def defineSection (context : Context) (name : String) (producer : Producer) :
    Except UsageError Context :=
  if context.isSectionDefined name then .error (.duplicateSection name)
  else .ok { context with sections := context.sections.insert name producer }

/-- The producer of a section; one that is missing is empty unless it is required. -/
def renderSection (context : Context) (name : String) (required : Bool) :
    Except UsageError Producer :=
  match context.sections.get? name with
  | some producer => .ok producer
  | none => if required then .error (.missingSection name) else .ok .empty

end Context
end Templating
