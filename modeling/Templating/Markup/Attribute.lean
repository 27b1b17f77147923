import Templating.Markup.Write

/-!
Attributes whose value is put together from segments, and which vanish with them.

An attribute without segments is written with an empty value.  A false segment drops the whole
attribute, a true one stands for the name of the attribute, and a null one is skipped together
with the text that leads it.  The first segment that is left is led by the text that opens the
attribute instead of by its own, and if none is left, the attribute is left out.
-/

namespace Templating

/-- A part of a template with its offset in the template's text. -/
structure Positioned (α : Type u) where
  value : α
  position : Nat := 0
deriving DecidableEq, Repr

/-- One piece of an attribute value, with the text that leads it. -/
structure Segment where
  lead : Positioned String
  value : Positioned Value
  /-- Whether the value is written as it is. -/
  literal : Bool := false

structure Attribute where
  name : String
  opening : Positioned String
  closing : Positioned String
  segments : List Segment

namespace Attribute

/-- What has become of an attribute after some of its segments. -/
inductive Progress where
  | dropped
  | pending
  | staged (text : String)
deriving DecidableEq, Repr

/-- The value that a segment writes: none for null, and the attribute's name for true. -/
def shown? (declared : Attribute) (segment : Segment) : Option Value :=
  match segment.value.value with
  | .null => none
  | .bool true => some (.text declared.name)
  | value => some value

/-- Appends what a segment writes behind the text that leads it. -/
def append (segment : Segment) (encoding : Encoding) (before lead : String) (value : Value) :
    String :=
  if segment.literal then Value.writeLiteral (before ++ lead) value
  else Value.write (before ++ lead) value encoding

/-- Takes one segment in. -/
def advance (declared : Attribute) (encoding : Encoding) (progress : Progress)
    (segment : Segment) : Progress :=
  match progress, segment.value.value with
  | .dropped, _ => .dropped
  | _, .bool false => .dropped
  | progress, _ =>
      match declared.shown? segment with
      | none => progress
      | some value =>
          match progress with
          | .staged text => .staged (append segment encoding text segment.lead.value value)
          | _ => .staged (append segment encoding "" declared.opening.value value)

/-- Appends an attribute to a sink.  The segments are staged first, so that a false one leaves
the sink as it was. -/
def write (sink : String) (declared : Attribute) (encoding : Encoding) : String :=
  if declared.segments.isEmpty then sink ++ declared.opening.value ++ declared.closing.value
  else
    match declared.segments.foldl (declared.advance encoding) .pending with
    | .staged text => sink ++ text ++ declared.closing.value
    | _ => sink

end Attribute
end Templating
