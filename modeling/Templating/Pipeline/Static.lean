import Templating.Pipeline.Basic

/-!
Templates that were compiled ahead of time, registered by their text.

Generation succeeds for registered text alone and gives it back as the source, and compiling
finds what was registered last for that source.
-/

namespace Templating

structure StaticPipeline (L : Type u) where
  bodies : List (String × L) := []

namespace StaticPipeline

/-- The code for a text that is not registered. -/
def unknownTemplate : String := "STC0001"

/-- The code for generated source that is not registered. -/
def unknownSource : String := "STC0002"

/-- Registers a body as the compiled form of a text, over one registered before. -/
def register (static : StaticPipeline L) (content : String) (body : L) : StaticPipeline L :=
  ⟨(content, body) :: static.bodies.filter fun entry => entry.1 ≠ content⟩

def ofRegistrations (registrations : List (String × L)) : StaticPipeline L :=
  registrations.foldl (fun static entry => static.register entry.1 entry.2) {}

def find? (static : StaticPipeline L) (content : String) : Option L :=
  static.bodies.lookup content

def size (static : StaticPipeline L) : Nat :=
  static.bodies.length

def isEmpty (static : StaticPipeline L) : Bool :=
  static.bodies.isEmpty

def generate (static : StaticPipeline L) (request : GenerateRequest) : GenerateOutput :=
  if (static.find? request.content).isSome then .succeeded request.content
  else
    let message := "no precompiled body for template (model `" ++ request.modelTypeName ++ "`)"
    let diagnostic := (Diagnostic.new message).withFile (request.fileName.getD "<inline>")
    .failed [(diagnostic.withPlace 1 1).withCode unknownTemplate]

def compile (static : StaticPipeline L) (request : CompileRequest) : CompileOutput L :=
  match static.find? request.generatedSource with
  | some body => .succeeded body
  | none =>
      .failed [(Diagnostic.new "generated source does not match a precompiled body").withCode
        unknownSource]

def pipeline (static : StaticPipeline L) (label : Nat := 0) : Pipeline L where
  label := label
  generate := static.generate
  compile := static.compile

end StaticPipeline
end Templating
