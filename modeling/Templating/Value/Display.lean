import Templating.Value.Json

/-!
The text that stands for a value in a page.

It does not depend on any locale: null is no text, a list is its items with commas between
them, and a map is its JSON text.
-/

namespace Templating.Value

mutual

def display : Value → String
  | .null => ""
  | .bool true => "true"
  | .bool false => "false"
  | .int value => toString value.toInt
  | .float value => value.render .display
  | .text value => value
  | .raw markup => markup
  | .list [] => ""
  | .list (first :: rest) => display first ++ displayRest rest
  | .map entries => (toJson (.map entries)).compact

/-- The items after the first, each behind a comma and a blank. -/
def displayRest : List Value → String
  | [] => ""
  | item :: rest => ", " ++ display item ++ displayRest rest

end

end Templating.Value
