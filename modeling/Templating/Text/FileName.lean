import Templating.Text.LowerCase

/-!
File names and their extensions.

The extension of a path is what follows the last dot of its last component, unless the
component starts with that dot.  Extensions are compared in a normal form without leading dots
and in lower case.
-/

namespace Templating.FileName

def components (path : List Char) : List (List Char) :=
  path.splitOn '/'

/-- The last component that is more than a place in the tree of directories. -/
def base? (path : List Char) : Option (List Char) :=
  match ((components path).filter fun component => component ≠ [] ∧ component ≠ ['.']).getLast? with
  | some ['.', '.'] => none
  | other => other

/-- What follows the last dot of a name, if something precedes that dot. -/
def extensionOf? (name : List Char) : Option (List Char) :=
  let reversed := name.reverse
  let after := (reversed.takeWhile (· ≠ '.')).reverse
  match reversed.dropWhile (· ≠ '.') with
  | _ :: _ :: _ => some after
  | _ => none

def extension? (path : String) : Option String :=
  ((base? path.toList).bind extensionOf?).map String.ofList

/-- The form in which extensions are compared. -/
def normalExtension (extension : String) : String :=
  Text.lower (String.ofList (extension.toList.dropWhile (· = '.')))

end Templating.FileName
