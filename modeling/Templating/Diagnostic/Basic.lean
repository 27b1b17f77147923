/-!
Messages of the code generator and of the compiler, with the place that they are about.
-/

namespace Templating

structure Diagnostic where
  file : Option String := none
  line : Option UInt32 := none
  column : Option UInt32 := none
  code : Option String := none
  message : String
deriving DecidableEq, Repr, Inhabited

namespace Diagnostic

def new (message : String) : Diagnostic :=
  { message }

def withFile (diagnostic : Diagnostic) (file : String) : Diagnostic :=
  { diagnostic with file := some file }

def withPlace (diagnostic : Diagnostic) (line column : UInt32) : Diagnostic :=
  { diagnostic with line := some line, column := some column }

def withCode (diagnostic : Diagnostic) (code : String) : Diagnostic :=
  { diagnostic with code := some code }

/-- A column is shown only together with a line. -/
def place (diagnostic : Diagnostic) : String :=
  match diagnostic.line, diagnostic.column with
  | some line, some column => s!"({line.toNat},{column.toNat})"
  | some line, none => s!"({line.toNat})"
  | none, _ => ""

/-- The line of a build log: `file(line,column): error code: message`. -/
def display (diagnostic : Diagnostic) : String :=
  diagnostic.file.getD "<template>" ++ diagnostic.place ++ ": error" ++
    (match diagnostic.code with
      | some code => " " ++ code
      | none => "") ++
    ": " ++ diagnostic.message

end Diagnostic
end Templating
