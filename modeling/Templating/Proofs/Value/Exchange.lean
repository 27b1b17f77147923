import Templating.Value.Json

/-!
Values that go to JSON and come back.

`Value.carried` is what is left of a value on the way: markup is plain text, a number without a decimal
form is null, and all else is as it was.  The trees that values are written as are exact, and an exact
tree goes to a value and back unchanged.
-/

namespace Templating

mutual

/-- Whether each number of a tree is one that a value can hold and JSON can write. -/
def Json.isExact : Json → Bool
  | .int value => Value.fitsInt64 value
  | .float value => value.isFinite
  | .array items => itemsExact items
  | .object members => membersExact members
  | .null | .bool _ | .text _ => true

def Json.itemsExact : List Json → Bool
  | [] => true
  | item :: rest => item.isExact && itemsExact rest

def Json.membersExact : List (String × Json) → Bool
  | [] => true
  | (_, value) :: rest => value.isExact && membersExact rest

end

namespace Value

mutual

/-- What JSON carries of a value. -/
def carried : Value → Value
  | .null => .null
  | .bool value => .bool value
  | .int value => .int value
  | .float value => if value.isFinite then .float value else .null
  | .text value => .text value
  | .raw markup => .text markup
  | .list items => .list (carriedItems items)
  | .map entries => .map (carriedEntries entries)

def carriedItems : List Value → List Value
  | [] => []
  | item :: rest => carried item :: carriedItems rest

def carriedEntries : List (String × Value) → List (String × Value)
  | [] => []
  | (name, value) :: rest => (name, carried value) :: carriedEntries rest

end

theorem fitsInt64_toInt (value : Int64) : fitsInt64 value.toInt = true := by
  have lower := value.minValue_le_toInt
  have upper := value.toInt_le
  simp only [fitsInt64, lower, upper, decide_true, Bool.and_self]

theorem toInt_ofInt_of_fits {value : Int} (fits : fitsInt64 value = true) :
    (Int64.ofInt value).toInt = value := by
  simp only [fitsInt64, Bool.and_eq_true, decide_eq_true_eq] at fits
  obtain ⟨lower, upper⟩ := fits
  have least : Int64.minValue.toInt = -2 ^ 63 := rfl
  have greatest : Int64.maxValue.toInt = 2 ^ 63 - 1 := rfl
  apply Int64.toInt_ofInt_of_le <;> omega

/-! ## To JSON and back -/

mutual

theorem ofJson_toJson (value : Value) : ofJson (toJson value) = value.carried :=
  match value with
  | .null | .bool _ | .text _ | .raw _ => rfl
  | .int value => by
      simp only [toJson, ofJson, carried, fitsInt64_toInt, if_true, Int64.ofInt_toInt]
  | .float value => by
      simp only [toJson, carried]
      split <;> rfl
  | .list items => by simp only [toJson, ofJson, carried, itemsOfJson_itemsToJson items]
  | .map entries => by simp only [toJson, ofJson, carried, entriesOfJson_entriesToJson entries]

theorem itemsOfJson_itemsToJson (items : List Value) :
    itemsOfJson (itemsToJson items) = carriedItems items :=
  match items with
  | [] => rfl
  | item :: rest => by
      simp only [itemsToJson, itemsOfJson, carriedItems, ofJson_toJson item,
        itemsOfJson_itemsToJson rest]

theorem entriesOfJson_entriesToJson (entries : List (String × Value)) :
    entriesOfJson (entriesToJson entries) = carriedEntries entries :=
  match entries with
  | [] => rfl
  | (_, value) :: rest => by
      simp only [entriesToJson, entriesOfJson, carriedEntries, ofJson_toJson value,
        entriesOfJson_entriesToJson rest]

end

/-! ## From JSON and back -/

mutual

theorem toJson_ofJson (tree : Json) (exact : tree.isExact = true) : toJson (ofJson tree) = tree :=
  match tree with
  | .null | .bool _ | .text _ => rfl
  | .int value => by
      have fits : fitsInt64 value = true := exact
      simp only [ofJson, fits, if_true, toJson, toInt_ofInt_of_fits fits]
  | .float value => by
      have finite : value.isFinite = true := exact
      simp only [ofJson, toJson, finite, if_true]
  | .array items => by
      have exact : Json.itemsExact items = true := exact
      simp only [ofJson, toJson, itemsToJson_itemsOfJson items exact]
  | .object members => by
      have exact : Json.membersExact members = true := exact
      simp only [ofJson, toJson, entriesToJson_entriesOfJson members exact]

theorem itemsToJson_itemsOfJson (items : List Json) (exact : Json.itemsExact items = true) :
    itemsToJson (itemsOfJson items) = items :=
  match items with
  | [] => rfl
  | item :: rest => by
      obtain ⟨first, others⟩ := (Bool.and_eq_true _ _).mp exact
      simp only [itemsOfJson, itemsToJson, toJson_ofJson item first,
        itemsToJson_itemsOfJson rest others]

theorem entriesToJson_entriesOfJson (members : List (String × Json))
    (exact : Json.membersExact members = true) : entriesToJson (entriesOfJson members) = members :=
  match members with
  | [] => rfl
  | (_, value) :: rest => by
      obtain ⟨first, others⟩ := (Bool.and_eq_true _ _).mp exact
      simp only [entriesOfJson, entriesToJson, toJson_ofJson value first,
        entriesToJson_entriesOfJson rest others]

end

mutual

theorem toJson_isExact (value : Value) : (toJson value).isExact = true :=
  match value with
  | .null | .bool _ | .text _ | .raw _ => rfl
  | .int value => fitsInt64_toInt value
  | .float value => by
      simp only [toJson]
      split
      · next finite => exact finite
      · rfl
  | .list items => itemsToJson_exact items
  | .map entries => entriesToJson_exact entries

theorem itemsToJson_exact (items : List Value) : Json.itemsExact (itemsToJson items) = true :=
  match items with
  | [] => rfl
  | item :: rest => by
      simp only [itemsToJson, Json.itemsExact, toJson_isExact item, itemsToJson_exact rest,
        Bool.and_self]

theorem entriesToJson_exact (entries : List (String × Value)) :
    Json.membersExact (entriesToJson entries) = true :=
  match entries with
  | [] => rfl
  | (_, value) :: rest => by
      simp only [entriesToJson, Json.membersExact, toJson_isExact value, entriesToJson_exact rest,
        Bool.and_self]

end

/-- JSON carries a value but for its markup and its numbers without a decimal form, a second passage
changes nothing, and an exact tree comes back from a value as it was. -/
theorem json_carries_values :
    (∀ value, ofJson (toJson value) = carried value ∧
      ofJson (toJson (ofJson (toJson value))) = ofJson (toJson value)) ∧
    ∀ tree : Json, tree.isExact = true → toJson (ofJson tree) = tree := by
  refine ⟨fun value => ⟨ofJson_toJson value, ?_⟩, toJson_ofJson⟩
  rw [toJson_ofJson _ (toJson_isExact value)]

/-- The least whole number, a whole number as a floating-point number and the negative zero, next to
members that are out of order. -/
def ledgerTree : Json :=
  .object [("z", .array [.int (-9223372036854775808), .float (.ofInt 3), .float (.zero true)]),
    ("a", .object [("", .null), ("b", .array [.bool false, .text "<"])])]

theorem ledgerTree_carried : ledgerTree.isExact = true ∧ toJson (ofJson ledgerTree) = ledgerTree := by
  have exact : ledgerTree.isExact = true := by decide +kernel
  exact ⟨exact, json_carries_values.2 ledgerTree exact⟩

end Value
end Templating
