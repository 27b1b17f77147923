import Templating.Config.Basic
import Templating.Markup.Entity
import Templating.Value.Display

/-!
Writing values into a page.

There are two paths.  The literal path writes the text of a value as it is.  The encoded path
encodes it for HTML, except for null, for markup and under `Encoding.raw`.
-/

namespace Templating.Value

/-- The text of a value: a text of its own as it stands, or else what is displayed of it. -/
def plainText : Value → String
  | .null => ""
  | .text own | .raw own => own
  | value => value.display

@[simp]
theorem plainText_eq_display (value : Value) : value.plainText = value.display := by
  cases value <;> rfl

/-- What the encoded path writes for a value. -/
def markup (value : Value) (encoding : Encoding) : String :=
  match value, encoding with
  | .null, _ => ""
  | .raw markup, _ => markup
  | value, .raw => value.plainText
  | value, .html => (Entity.encode value.plainText).text

def write (sink : String) (value : Value) (encoding : Encoding) : String :=
  sink ++ value.markup encoding

def writeLiteral (sink : String) (value : Value) : String :=
  sink ++ value.plainText

theorem writeLiteral_eq_append (value : Value) (sink : String) :
    value.writeLiteral sink = sink ++ value.display :=
  congrArg (sink ++ ·) value.plainText_eq_display

end Templating.Value
