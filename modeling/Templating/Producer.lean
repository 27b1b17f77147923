import Templating.Value.Basic

/-!
Output that was produced ahead of time and is placed later.

The body of a template is captured when the template ends and a section when it is defined;
both are rendered markup, so that writing one never encodes it again.
-/

namespace Templating

inductive Producer where
  | empty
  | rendered (text : String)
deriving DecidableEq, Repr, Inhabited

namespace Producer

def text : Producer → String
  | .empty => ""
  | .rendered text => text

def isEmpty (producer : Producer) : Bool :=
  producer.text.isEmpty

end Producer

instance : ToValue Producer where
  toValue
    | .empty => .null
    | .rendered text => .raw text

end Templating
