/-!
Texts in ascending order, each with a value.

`Fields` is a finite map from names to values that lists its entries in one order, that of the
code points of the names, whatever the order in which they were put in.  The view of a map is
`get?`; the statements below say what each operation does to it.
-/

namespace Templating

structure Fields (α : Type u) where
  entries : List (String × α)
  ascending : entries.Pairwise (fun left right => left.1 < right.1)

namespace Fields

variable {α : Type u} {β : Type v}

def empty : Fields α :=
  ⟨[], .nil⟩

instance : Inhabited (Fields α) := ⟨empty⟩
instance : EmptyCollection (Fields α) := ⟨empty⟩

instance [Repr α] : Repr (Fields α) where
  reprPrec fields precedence := reprPrec fields.entries precedence

@[ext]
theorem ext {left right : Fields α} (same : left.entries = right.entries) : left = right := by
  cases left
  cases right
  cases same
  rfl

/-- Puts a value in its place among the entries, over the value of an equal name. -/
def insertEntry (name : String) (value : α) : List (String × α) → List (String × α)
  | [] => [(name, value)]
  | (first, old) :: rest =>
      if name < first then (name, value) :: (first, old) :: rest
      else if name = first then (name, value) :: rest
      else (first, old) :: insertEntry name value rest

theorem mem_insertEntry {name : String} {value : α} {entries : List (String × α)}
    {entry : String × α} (member : entry ∈ insertEntry name value entries) :
    entry = (name, value) ∨ entry ∈ entries := by
  induction entries with
  | nil => simpa [insertEntry] using member
  | cons head rest ih => grind [insertEntry]

theorem insertEntry_ascending {name : String} {value : α} {entries : List (String × α)}
    (ascending : entries.Pairwise (fun left right => left.1 < right.1)) :
    (insertEntry name value entries).Pairwise (fun left right => left.1 < right.1) := by
  induction entries with
  | nil => simp [insertEntry]
  | cons head rest ih =>
      obtain ⟨first, old⟩ := head
      have headLess : ∀ entry ∈ rest, first < entry.1 := (List.pairwise_cons.mp ascending).1
      have restAscending := (List.pairwise_cons.mp ascending).2
      unfold insertEntry
      by_cases less : name < first
      · rw [if_pos less]
        refine List.pairwise_cons.mpr ⟨fun entry member => ?_, ascending⟩
        rcases List.mem_cons.mp member with rfl | later
        · exact less
        · exact String.lt_trans less (headLess entry later)
      · rw [if_neg less]
        by_cases same : name = first
        · rw [if_pos same]
          subst same
          exact List.pairwise_cons.mpr ⟨headLess, restAscending⟩
        · rw [if_neg same]
          have greater : first < name := by grind
          refine List.pairwise_cons.mpr ⟨fun entry member => ?_, ih restAscending⟩
          rcases mem_insertEntry member with rfl | later
          · exact greater
          · exact headLess entry later

/-- Puts a value under a name, in place of the one that was there. -/
def insert (fields : Fields α) (name : String) (value : α) : Fields α :=
  ⟨insertEntry name value fields.entries, insertEntry_ascending fields.ascending⟩

/-- Removes a name with its value. -/
def erase (fields : Fields α) (name : String) : Fields α :=
  ⟨fields.entries.filter (fun entry => entry.1 ≠ name), fields.ascending.filter _⟩

/-- The value under a name. -/
def get? (fields : Fields α) (name : String) : Option α :=
  fields.entries.lookup name

def contains (fields : Fields α) (name : String) : Bool :=
  (fields.get? name).isSome

def size (fields : Fields α) : Nat :=
  fields.entries.length

def isEmpty (fields : Fields α) : Bool :=
  fields.entries.isEmpty

/-- Puts entries in one after the other, so that the last of equal names stays. -/
def ofList (entries : List (String × α)) : Fields α :=
  entries.foldl (fun fields entry => fields.insert entry.1 entry.2) empty

theorem mem_of_get? {fields : Fields α} {name : String} {value : α}
    (found : fields.get? name = some value) : (name, value) ∈ fields.entries := by
  obtain ⟨front, back, split, _⟩ := List.lookup_eq_some_iff.mp found
  simp [split]

theorem mem_foldl_insert {entries : List (String × α)} {fields : Fields α} {entry : String × α}
    (member : entry ∈
      (entries.foldl (fun fields entry => fields.insert entry.1 entry.2) fields).entries) :
    entry ∈ fields.entries ∨ entry ∈ entries := by
  induction entries generalizing fields with
  | nil => exact .inl member
  | cons head rest ih =>
      rcases ih member with put | later
      · rcases mem_insertEntry put with rfl | old
        · exact .inr (by simp)
        · exact .inl old
      · exact .inr (by simp [later])

theorem mem_ofList {entries : List (String × α)} {entry : String × α}
    (member : entry ∈ (ofList entries).entries) : entry ∈ entries :=
  (mem_foldl_insert member).resolve_left (by simp [empty])

@[simp]
theorem get?_empty (name : String) : (empty : Fields α).get? name = none := rfl

theorem lookup_insertEntry (name other : String) (value : α) (entries : List (String × α)) :
    (insertEntry name value entries).lookup other =
      if other = name then some value else entries.lookup other := by
  induction entries with
  | nil => grind [insertEntry]
  | cons head rest ih => grind [insertEntry]

theorem get?_insert (fields : Fields α) (name other : String) (value : α) :
    (fields.insert name value).get? other =
      if other = name then some value else fields.get? other :=
  lookup_insertEntry name other value fields.entries

@[simp]
theorem get?_insert_self (fields : Fields α) (name : String) (value : α) :
    (fields.insert name value).get? name = some value := by
  simp [get?_insert]

theorem get?_insert_of_ne (fields : Fields α) {name other : String} (value : α)
    (different : other ≠ name) : (fields.insert name value).get? other = fields.get? other := by
  simp [get?_insert, different]

theorem lookup_filter_ne (name other : String) (entries : List (String × α)) :
    (entries.filter (fun entry => entry.1 ≠ name)).lookup other =
      if other = name then none else entries.lookup other := by
  induction entries with
  | nil => grind
  | cons head rest ih => grind

theorem get?_erase (fields : Fields α) (name other : String) :
    (fields.erase name).get? other = if other = name then none else fields.get? other :=
  lookup_filter_ne name other fields.entries

end Fields
end Templating
