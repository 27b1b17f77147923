import Templating.Config.Basic
import Templating.Diagnostic.Basic
import Templating.Fingerprint

/-!
The generator and the compiler behind an engine.

A pipeline turns the text of a template into generated source, and generated source into
something that can be loaded.  Nothing here looks into what is loaded.
-/

namespace Templating

structure GenerateRequest where
  content : String
  fileName : Option String
  modelTypeName : String
  namespaces : List String
deriving DecidableEq, Repr

structure GenerateOutput where
  success : Bool
  generatedSource : String
  /-- Errors of a failure; a success may come with warnings. -/
  diagnostics : List Diagnostic
deriving DecidableEq, Repr

def GenerateOutput.succeeded (generatedSource : String) : GenerateOutput :=
  ⟨true, generatedSource, []⟩

def GenerateOutput.failed (diagnostics : List Diagnostic) : GenerateOutput :=
  ⟨false, "", diagnostics⟩

structure CompileRequest where
  generatedSource : String
  references : List String
  debugInfo : Bool
deriving DecidableEq, Repr

structure CompileOutput (L : Type u) where
  success : Bool
  loadable : Option L
  diagnostics : List Diagnostic

def CompileOutput.succeeded (loadable : L) : CompileOutput L :=
  ⟨true, some loadable, []⟩

def CompileOutput.failed (diagnostics : List Diagnostic) : CompileOutput L :=
  ⟨false, none, diagnostics⟩

structure Pipeline (L : Type u) where
  /-- The number under which a journal lists the calls of this pipeline. -/
  label : Nat := 0
  generate : GenerateRequest → GenerateOutput
  compile : CompileRequest → CompileOutput L

structure PipelineOptions where
  namespaces : List String := []
  references : List String := []
  debug : Bool := false
deriving DecidableEq, Repr

def PipelineOptions.ofConfig (config : Config) : PipelineOptions where
  namespaces := config.namespaces
  references := config.references
  debug := config.debug

structure CompileInput where
  /-- The name of the template; its fingerprint, if absent. -/
  name : Option String := none
  content : String
  fileName : Option String := none
  modelType : ModelType := .dynamic
deriving DecidableEq, Repr

def CompileInput.fingerprint (input : CompileInput) : Fingerprint :=
  .compute input.content input.fileName input.modelType

def CompileInput.key (input : CompileInput) : String :=
  input.name.getD input.fingerprint.text

structure Artifact (L : Type u) where
  key : String
  fingerprint : Fingerprint
  modelType : ModelType
  fileName : Option String
  generatedSource : String
  loadable : L
deriving DecidableEq

end Templating
