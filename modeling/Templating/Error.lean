import Templating.Diagnostic.Basic

/-!
What can go wrong while a template is compiled or rendered.

Each cause is a constructor, and `message` is the only place where it is put into words.
-/

namespace Templating

/-- Misuse by a caller or by a template. -/
inductive UsageError where
  | missingSection (name : String)
  | duplicateSection (name : String)
  | emptyBodyStack
  | layoutNotFound (name : String)
  | templateNotFound (name : String)
  | providerNotFound (fileName : String)
  | modelTypeMismatch (expected found : String)
deriving DecidableEq, Repr, Inhabited

def UsageError.message : UsageError → String
  | .missingSection name => "section `" ++ name ++ "` has not been defined"
  | .duplicateSection name => "section `" ++ name ++ "` is already defined"
  | .emptyBodyStack => "render_body called with no pending body to render"
  | .layoutNotFound name => "layout `" ++ name ++ "` could not be resolved"
  | .templateNotFound name => "template `" ++ name ++ "` could not be resolved"
  | .providerNotFound fileName => "no compiler pipeline registered for `" ++ fileName ++ "`"
  | .modelTypeMismatch expected found =>
      "model type mismatch: template expects `" ++ expected ++ "`, got `" ++ found ++ "`"

inductive TemplateError where
  /-- The generator rejected the template. -/
  | generation (diagnostics : List Diagnostic)
  /-- The generated source did not compile; it is kept for looking up the places reported. -/
  | compilation (diagnostics : List Diagnostic) (generatedSource : String)
  | usage (error : UsageError)
deriving DecidableEq, Repr, Inhabited

namespace TemplateError

instance : Coe UsageError TemplateError := ⟨.usage⟩

/-- The diagnostics of a failed generation or compilation. -/
def diagnostics : TemplateError → List Diagnostic
  | .generation diagnostics => diagnostics
  | .compilation diagnostics _ => diagnostics
  | .usage _ => []

def asUsage? : TemplateError → Option UsageError
  | .usage error => some error
  | _ => none

/-- Each diagnostic on an indented line of its own. -/
def listing (diagnostics : List Diagnostic) : String :=
  String.join (diagnostics.map fun diagnostic => "\n  " ++ diagnostic.display)

def message : TemplateError → String
  | .generation diagnostics => "template generation failed:" ++ listing diagnostics
  | .compilation diagnostics _ => "template compilation failed:" ++ listing diagnostics
  | .usage error => error.message

end TemplateError
end Templating
