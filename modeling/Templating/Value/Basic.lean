import Templating.Number.Style

/-!
Values that a template writes or keeps in its view bag.

`raw` is text that is markup already and is never encoded again.  The entries of a map are
listed in ascending order of their names by whatever builds a map.
-/

namespace Templating

inductive Value where
  | null
  | bool (value : Bool)
  | int (value : Int64)
  | float (value : Binary64)
  | text (value : String)
  | raw (markup : String)
  | list (items : List Value)
  | map (entries : List (String × Value))

namespace Value

instance : Inhabited Value := ⟨.null⟩

def isNull : Value → Bool
  | .null => true
  | _ => false

def asBool? : Value → Option Bool
  | .bool value => some value
  | _ => none

def asInt? : Value → Option Int64
  | .int value => some value
  | _ => none

/-- Whole numbers count as floating-point numbers. -/
def asFloat? : Value → Option Binary64
  | .float value => some value
  | .int value => some (Binary64.ofInt value.toInt)
  | _ => none

/-- Plain text and markup alike. -/
def asText? : Value → Option String
  | .text value => some value
  | .raw markup => some markup
  | _ => none

mutual

/-- Equality of values, numbers compared as numbers. -/
def equals : Value → Value → Bool
  | .null, .null => true
  | .bool left, .bool right => left = right
  | .int left, .int right => left = right
  | .float left, .float right => left.equals right
  | .text left, .text right => left = right
  | .raw left, .raw right => left = right
  | .list left, .list right => equalItems left right
  | .map left, .map right => equalEntries left right
  | _, _ => false

def equalItems : List Value → List Value → Bool
  | [], [] => true
  | left :: lefts, right :: rights => equals left right && equalItems lefts rights
  | _, _ => false

def equalEntries : List (String × Value) → List (String × Value) → Bool
  | [], [] => true
  | (leftName, left) :: lefts, (rightName, right) :: rights =>
      decide (leftName = rightName) && equals left right && equalEntries lefts rights
  | _, _ => false

end

end Value

class ToValue (α : Type u) where
  toValue : α → Value

export ToValue (toValue)

instance : ToValue Value := ⟨id⟩
instance : ToValue Bool := ⟨.bool⟩
instance : ToValue String := ⟨.text⟩
instance : ToValue Int64 := ⟨.int⟩
instance : ToValue Int32 := ⟨fun value => .int value.toInt64⟩
instance : ToValue UInt32 := ⟨fun value => .int (.ofNat value.toNat)⟩
instance : ToValue Binary64 := ⟨.float⟩

/-- What is absent is null. -/
instance [ToValue α] : ToValue (Option α) :=
  ⟨fun value => (value.map toValue).getD .null⟩

instance [ToValue α] : ToValue (List α) :=
  ⟨fun items => .list (items.map toValue)⟩

class OfValue (α : Type u) where
  ofValue? : Value → Option α

export OfValue (ofValue?)

instance : OfValue Value := ⟨some⟩
instance : OfValue Bool := ⟨Value.asBool?⟩
instance : OfValue String := ⟨Value.asText?⟩
instance : OfValue Int64 := ⟨Value.asInt?⟩
instance : OfValue Binary64 := ⟨Value.asFloat?⟩

end Templating
