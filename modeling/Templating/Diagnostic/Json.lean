import Templating.Diagnostic.Basic
import Templating.Json.Basic
import Templating.Json.Node
import Templating.Members

/-!
Diagnostics as JSON text.

A diagnostic is written as an object without its absent parts.  It is read from an object with
its members in any order, an absent part left out or null, or from an array of all five parts
in order.  Members of other names are skipped unread.
-/

namespace Templating.Diagnostic

/-- The members of the parts that are present, in the order of their declaration. -/
def jsonMembers (diagnostic : Diagnostic) : List (String × Json) :=
  (diagnostic.file.map fun file => ("file", Json.text file)).toList ++
  (diagnostic.line.map fun line => ("line", Json.int line.toNat)).toList ++
  (diagnostic.column.map fun column => ("column", Json.int column.toNat)).toList ++
  (diagnostic.code.map fun code => ("code", Json.text code)).toList ++
  [("message", Json.text diagnostic.message)]

def toJson (diagnostic : Diagnostic) : Json :=
  .object diagnostic.jsonMembers

/-- A text that names a string. -/
def text? : Json.Node → Option String
  | .text value => value
  | _ => none

/-- A whole number of 32 bits, written without a sign. -/
def count? : Json.Node → Option UInt32
  | .number value =>
      if value.isWhole ∧ ¬value.negative ∧ value.wholeValue < UInt32.size then
        some (.ofNat value.wholeValue)
      else none
  | _ => none

/-- A part that may be null. -/
def orNull? (read : Json.Node → Option α) : Json.Node → Option (Option α)
  | .null => some none
  | node => (read node).map some

/-- The parts of a diagnostic from the nodes that hold them. -/
def ofParts? (file line column code message : Json.Node) : Option Diagnostic := do
  let file ← orNull? text? file
  let line ← orNull? count? line
  let column ← orNull? count? column
  let code ← orNull? text? code
  let message ← text? message
  some { file, line, column, code, message }

/-- The node under a name that stands at most once, null if it is absent. -/
def part? (members : List (String × Json.Node)) (name : String) : Option Json.Node :=
  (Members.unique? members name).map fun node => node.getD .null

/-- Every name has to be a string, also those of skipped members. -/
def names? (members : List (Option String × Json.Node)) : Option (List (String × Json.Node)) :=
  match members with
  | [] => some []
  | (name, node) :: rest => do
      let name ← name
      let rest ← names? rest
      some ((name, node) :: rest)

def ofNode? : Json.Node → Option Diagnostic
  | .object members => do
      let members ← names? members
      let file ← part? members "file"
      let line ← part? members "line"
      let column ← part? members "column"
      let code ← part? members "code"
      let message ← part? members "message"
      ofParts? file line column code message
  | .array [file, line, column, code, message] => ofParts? file line column code message
  | _ => none

/-- The diagnostic that a text is. -/
def parse? (source : String) : Option Diagnostic := do
  let node ← Json.Node.ofString? source
  ofNode? node

end Templating.Diagnostic
