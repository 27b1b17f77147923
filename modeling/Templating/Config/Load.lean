import Templating.Config.Decode

/-!
Configurations from the text of a document and from a file.

What a text is as a document is up to a reader, which is given: nothing here knows the syntax of
documents.  An error carries what it was caused by.  Of the causes for which a file cannot be read
three are told apart; a file that exists and may not be opened is not modelled.
-/

namespace Templating

/-- Why a file cannot be read as text. -/
inductive Unreadable where
  | missing
  | directory
  | notText
deriving DecidableEq, Repr

/-- Why a text is no configuration: its reader fails on it, or its document is refused. -/
inductive Malformed (Cause : Type u) where
  | unread (cause : Cause)
  | refused (refusal : Config.Refusal)
deriving DecidableEq, Repr

inductive ConfigError (Cause : Type u) where
  /-- A file cannot be read as text. -/
  | unreadable (path : String) (cause : Unreadable)
  /-- A text is no configuration. -/
  | malformed (cause : Malformed Cause)
  /-- The text of a file is no configuration. -/
  | malformedFile (path : String) (cause : Malformed Cause)
deriving DecidableEq, Repr

/-- The text of an error; what caused it is put into words by whoever found it. -/
def ConfigError.message (error : ConfigError Cause) (unreadable : Unreadable → String)
    (malformed : Malformed Cause → String) : String :=
  match error with
  | .unreadable path cause => "config I/O error at " ++ path ++ ": " ++ unreadable cause
  | .malformed cause => "config YAML error: " ++ malformed cause
  | .malformedFile path cause => "failed to parse config at " ++ path ++ ": " ++ malformed cause

/-- What is found under the path of a file. -/
inductive FileContent where
  | missing
  | directory
  | bytes (content : ByteArray)

/-- The text in a file. -/
def FileContent.text : FileContent → Except Unreadable String
  | .missing => .error .missing
  | .directory => .error .directory
  | .bytes content =>
      match String.fromUTF8? content with
      | some source => .ok source
      | none => .error .notText

namespace Config

/-- The configuration that a text is; a text without a document is the default one. -/
def parse (read : Yaml.Reader Cause) (source : String) : Except (Malformed Cause) Config :=
  match read source with
  | .error cause => .error (.unread cause)
  | .ok none => .ok {}
  | .ok (some node) => (ofNode node).mapError .refused

def ofYaml (read : Yaml.Reader Cause) (source : String) : Except (ConfigError Cause) Config :=
  (parse read source).mapError .malformed

/-- The configuration in a file. -/
def load (read : Yaml.Reader Cause) (path : String) (content : FileContent) :
    Except (ConfigError Cause) Config :=
  match content.text with
  | .error cause => .error (.unreadable path cause)
  | .ok source => (parse read source).mapError (.malformedFile path)

end Config
end Templating
