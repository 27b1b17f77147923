import Templating.Json.Basic
import Templating.Value.Basic

/-!
Values as JSON trees and back.

Markup becomes plain text on the way to JSON, and a number without a decimal form becomes null.
On the way back a whole number outside the range of `Int64` becomes the nearest floating-point
number.
-/

namespace Templating.Value

mutual

def toJson : Value → Json
  | .null => .null
  | .bool value => .bool value
  | .int value => .int value.toInt
  | .float value => if value.isFinite then .float value else .null
  | .text value => .text value
  | .raw markup => .text markup
  | .list items => .array (itemsToJson items)
  | .map entries => .object (entriesToJson entries)

def itemsToJson : List Value → List Json
  | [] => []
  | item :: rest => toJson item :: itemsToJson rest

def entriesToJson : List (String × Value) → List (String × Json)
  | [] => []
  | (name, value) :: rest => (name, toJson value) :: entriesToJson rest

end

/-- Whether a whole number is within the range of `Int64`. -/
def fitsInt64 (value : Int) : Bool :=
  Int64.minValue.toInt ≤ value && value ≤ Int64.maxValue.toInt

mutual

def ofJson : Json → Value
  | .null => .null
  | .bool value => .bool value
  | .int value => if fitsInt64 value then .int (.ofInt value) else .float (.ofInt value)
  | .float value => .float value
  | .text value => .text value
  | .array items => .list (itemsOfJson items)
  | .object members => .map (entriesOfJson members)

def itemsOfJson : List Json → List Value
  | [] => []
  | item :: rest => ofJson item :: itemsOfJson rest

def entriesOfJson : List (String × Json) → List (String × Value)
  | [] => []
  | (name, value) :: rest => (name, ofJson value) :: entriesOfJson rest

end

end Templating.Value
