import Templating.Config.Basic
import Templating.Json.Basic
import Templating.Number.Digit
import Templating.Yaml.Node

/-!
Configurations as YAML mappings and as JSON text.

The entries of a mapping are read in their order.  Each setting is an entry under its own name.
One that is absent has its default, one that stands there again is refused before its value is
read, and entries under other names are skipped.
-/

namespace Templating

namespace Yaml

def decodeBool? : Node → Option Bool
  | .scalar .plain text =>
      if text = "true" ∨ text = "True" ∨ text = "TRUE" then some true
      else if text = "false" ∨ text = "False" ∨ text = "FALSE" then some false
      else none
  | _ => none

/-- A scalar as text, whatever it looks like. -/
def decodeText? : Node → Option String
  | .scalar _ text => some text
  | _ => none

/-- The value of digits in a base, unless one is no digit. -/
def digits? (base : Nat) (digits : List Char) : Option Nat :=
  let value? (digit : Char) : Option Nat := (hexDigit? digit).filter (· < base)
  if digits.isEmpty then none
  else digits.foldlM (fun value digit => (value? digit).map (base * value + ·)) 0

/-- A whole number without a minus sign: decimal without leading zeros, or in one of three
other bases. -/
def natural? (text : List Char) : Option Nat :=
  let unsigned := if text.head? = some '+' then text.drop 1 else text
  match unsigned with
  | '0' :: 'x' :: digits => digits? 16 digits
  | '0' :: 'o' :: digits => digits? 8 digits
  | '0' :: 'b' :: digits => digits? 2 digits
  | '0' :: _ :: _ => none
  | digits => digits? 10 digits

/-- A number of 64 bits without a sign, or none for a null. -/
def decodeCapacity? : Node → Option (Option Nat)
  | .scalar .plain text =>
      if text = "" ∨ text = "~" ∨ text = "null" ∨ text = "Null" ∨ text = "NULL" then some none
      else
        match natural? text.toList with
        | some value => if value < UInt64.size then some (some value) else none
        | none => none
  | _ => none

/-- A sequence of scalars; where nothing stands, there are no items. -/
def decodeTexts? : Node → Option (List String)
  | .sequence items => items.mapM decodeText?
  | .scalar .plain "" => some []
  | _ => none

def decodeEncoding? : Node → Option Encoding
  | .scalar _ text =>
      if text = "html" then some .html
      else if text = "raw" then some .raw
      else none
  | _ => none

def decodeFailurePolicy? : Node → Option FailurePolicy
  | .scalar _ text =>
      if text = "retry" then some .retry
      else if text = "remember" then some .remember
      else none
  | _ => none

end Yaml

namespace Config

/-- Why a document is no configuration. -/
inductive Refusal where
  | notMapping
  /-- A key is a collection, which is no name. -/
  | notName
  /-- A setting stands in the mapping again. -/
  | repeated (name : String)
  /-- The value of a setting is not of its kind. -/
  | invalid (name : String)
deriving DecidableEq, Repr

/-- The settings that have been read so far. -/
structure Found where
  debug : Option Bool := none
  namespaces : Option (List String) := none
  references : Option (List String) := none
  encoding : Option Encoding := none
  cacheCapacity : Option (Option Nat) := none
  failurePolicy : Option FailurePolicy := none

/-- Reads the value of a setting, unless the setting has been read before. -/
def fill (name : String) (decode : Yaml.Node → Option α) (held : Option α) (node : Yaml.Node) :
    Except Refusal (Option α) :=
  if held.isSome then .error (.repeated name)
  else
    match decode node with
    | some value => .ok (some value)
    | none => .error (.invalid name)

namespace Found

/-- Reads an entry under a name. -/
def add (found : Found) (name : String) (node : Yaml.Node) : Except Refusal Found :=
  if name = "debug" then
    (fill name Yaml.decodeBool? found.debug node).map ({ found with debug := · })
  else if name = "namespaces" then
    (fill name Yaml.decodeTexts? found.namespaces node).map ({ found with namespaces := · })
  else if name = "references" then
    (fill name Yaml.decodeTexts? found.references node).map ({ found with references := · })
  else if name = "encoding" then
    (fill name Yaml.decodeEncoding? found.encoding node).map ({ found with encoding := · })
  else if name = "cache_capacity" then
    (fill name Yaml.decodeCapacity? found.cacheCapacity node).map
      ({ found with cacheCapacity := · })
  else if name = "failure_policy" then
    (fill name Yaml.decodeFailurePolicy? found.failurePolicy node).map
      ({ found with failurePolicy := · })
  else .ok found

def addEntry (found : Found) (entry : Yaml.Node × Yaml.Node) : Except Refusal Found :=
  match Yaml.decodeText? entry.1 with
  | some name => found.add name entry.2
  | none => .error .notName

def addAll (found : Found) : List (Yaml.Node × Yaml.Node) → Except Refusal Found
  | [] => .ok found
  | entry :: rest =>
      match found.addEntry entry with
      | .ok found => found.addAll rest
      | .error refusal => .error refusal

/-- The settings that were found, and defaults for the others. -/
def config (found : Found) : Config :=
  let defaults : Config := {}
  { debug := found.debug.getD defaults.debug
    namespaces := found.namespaces.getD defaults.namespaces
    references := found.references.getD defaults.references
    encoding := found.encoding.getD defaults.encoding
    cacheCapacity := found.cacheCapacity.getD defaults.cacheCapacity
    failurePolicy := found.failurePolicy.getD defaults.failurePolicy }

end Found

/-- The configuration that a document is.  Where nothing stands, all settings are defaults. -/
def ofNode : Yaml.Node → Except Refusal Config
  | .mapping entries => (Found.addAll {} entries).map Found.config
  | .scalar .plain "" => .ok {}
  | _ => .error .notMapping

/-- The settings in the order of their declaration, as the members of a JSON object. -/
def toJson (config : Config) : Json :=
  .object
    [("debug", .bool config.debug),
      ("namespaces", .array (config.namespaces.map .text)),
      ("references", .array (config.references.map .text)),
      ("encoding", .text config.encoding.name),
      ("cache_capacity",
        match config.cacheCapacity with
        | some capacity => .int capacity
        | none => .null),
      ("failure_policy", .text config.failurePolicy.name)]

end Config
end Templating
