import Templating.Fields
import Templating.Value.Basic

/-!
The view bag: named values that all templates of one render chain share.
-/

namespace Templating

abbrev ViewBag := Fields Value

namespace ViewBag

def set [ToValue α] (bag : ViewBag) (name : String) (value : α) : Option Value × ViewBag :=
  (bag.get? name, bag.insert name (toValue value))

def remove (bag : ViewBag) (name : String) : Option Value × ViewBag :=
  (bag.get? name, bag.erase name)

/-- The value under a name, if it can be read as an `α`. -/
def getAs? (α : Type u) [OfValue α] (bag : ViewBag) (name : String) : Option α :=
  (bag.get? name).bind ofValue?

def getText? (bag : ViewBag) (name : String) : Option String :=
  bag.getAs? String name

def getInt? (bag : ViewBag) (name : String) : Option Int64 :=
  bag.getAs? Int64 name

def getFloat? (bag : ViewBag) (name : String) : Option Binary64 :=
  bag.getAs? Binary64 name

def getBool? (bag : ViewBag) (name : String) : Option Bool :=
  bag.getAs? Bool name

end ViewBag
end Templating
