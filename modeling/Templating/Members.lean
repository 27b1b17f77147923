/-!
Lists of named values as they stand in a document, names repeated or not.
-/

namespace Templating.Members

def valuesOf (members : List (String × α)) (name : String) : List α :=
  (members.filter fun member => member.1 = name).map Prod.snd

/-- The value under a name, if there is one; a name that is repeated is refused. -/
def unique? (members : List (String × α)) (name : String) : Option (Option α) :=
  match valuesOf members name with
  | [] => some none
  | [value] => some (some value)
  | _ :: _ :: _ => none

end Templating.Members
