import Mathlib.Data.List.Basic
import Mathlib.Data.List.Nodup
import Templating.Cache.Basic
import Templating.Fields

/-!
The list of a cache: which slot each key has, and what the actions under its lock change.

`Listed` is what every action keeps: no key and no slot is listed twice, and only slots that
were made are listed.
-/

namespace Templating

variable {L : Type u} {cache : Cache L} {key : String} {id : SlotId}

namespace Cache

structure Listed (cache : Cache L) : Prop where
  keys : (cache.entries.map Prod.fst).Nodup
  slots : (cache.entries.map Prod.snd).Nodup
  within : ∀ entry ∈ cache.entries, entry.2 < cache.slots.size

theorem create_listed (capacity : Option Nat) (failurePolicy : FailurePolicy) :
    (create capacity failurePolicy : Cache L).Listed :=
  ⟨by simp [create], by simp [create], by simp [create]⟩

theorem Listed.congr {other : Cache L} (listed : cache.Listed)
    (entries : other.entries = cache.entries) (size : other.slots.size = cache.slots.size) :
    other.Listed :=
  ⟨by rw [entries]; exact listed.keys, by rw [entries]; exact listed.slots,
    by rw [entries, size]; exact listed.within⟩

theorem Listed.hold (listed : cache.Listed) (id : SlotId) : (cache.hold id).Listed :=
  listed.congr rfl rfl

theorem Listed.release (listed : cache.Listed) (id : SlotId) : (cache.release id).Listed :=
  listed.congr rfl rfl

theorem Listed.of_sublist {shorter : List (String × SlotId)} (listed : cache.Listed)
    (sublist : shorter.Sublist cache.entries) : { cache with entries := shorter }.Listed :=
  ⟨(sublist.map Prod.fst).nodup listed.keys, (sublist.map Prod.snd).nodup listed.slots,
    fun entry member => listed.within entry (sublist.subset member)⟩

/-! ## Looking a key up -/

theorem mem_of_find? (found : cache.find? key = some id) : (key, id) ∈ cache.entries := by
  obtain ⟨front, back, split, _⟩ := List.lookup_eq_some_iff.mp found
  simp [split]

theorem find?_eq_none_iff : cache.find? key = none ↔ ∀ entry ∈ cache.entries, entry.1 ≠ key := by
  simp only [find?, List.lookup_eq_none_iff, bne_iff_ne, ne_comm]

theorem lookup_of_mem {entries : List (String × α)} {value : α}
    (keys : (entries.map Prod.fst).Nodup) (member : (key, value) ∈ entries) :
    entries.lookup key = some value := by
  induction entries with
  | nil => simp at member
  | cons head rest ih =>
      obtain ⟨first, held⟩ := head
      simp only [List.map_cons, List.nodup_cons] at keys
      rcases List.mem_cons.mp member with same | later
      · cases same
        simp
      · have different : key ≠ first := by
          intro same
          subst same
          exact keys.1 (List.mem_map.mpr ⟨_, later, rfl⟩)
        have passed : (key == first) = false := beq_eq_false_iff_ne.mpr different
        simpa only [List.lookup_cons, passed] using ih keys.2 later

theorem Listed.find?_eq_some_iff (listed : cache.Listed) :
    cache.find? key = some id ↔ (key, id) ∈ cache.entries :=
  ⟨mem_of_find?, lookup_of_mem listed.keys⟩

/-- The artifact in the slot that is listed for the key. -/
def cached? (cache : Cache L) (key : String) : Option (Shared (Artifact L)) :=
  (cache.find? key).bind cache.artifact?

theorem artifact?_eq_some_iff {artifact : Shared (Artifact L)} :
    cache.artifact? id = some artifact ↔ (cache.slot id).state = .ready artifact := by
  unfold artifact?
  split
  · next other state => simp [state]
  · next unready => simpa using unready artifact

theorem cached?_of_find? {artifact : Shared (Artifact L)} (found : cache.find? key = some id)
    (ready : (cache.slot id).state = .ready artifact) : cache.cached? key = some artifact := by
  simp [cached?, found, artifact?_eq_some_iff.mpr ready]

theorem isCurrent_iff : cache.isCurrent key id = true ↔ cache.find? key = some id := by
  simp [isCurrent]

/-! ## Entries of other keys -/

theorem mem_others {entry : String × SlotId} :
    entry ∈ cache.others key ↔ entry ∈ cache.entries ∧ entry.1 ≠ key := by
  simp [others]

theorem others_sublist (cache : Cache L) (key : String) :
    (cache.others key).Sublist cache.entries :=
  List.filter_sublist

theorem others_eq_self (absent : cache.find? key = none) : cache.others key = cache.entries := by
  simpa [others] using find?_eq_none_iff.mp absent

theorem lookup_others (cache : Cache L) (key other : String) :
    (cache.others key).lookup other = if other = key then none else cache.find? other :=
  Fields.lookup_filter_ne key other cache.entries

theorem Listed.slot_ne (listed : cache.Listed) (found : cache.find? key = some id)
    {entry : String × SlotId} (member : entry ∈ cache.others key) : entry.2 ≠ id := by
  intro same
  have here := mem_of_find? found
  have there := mem_others.mp member
  have equal : entry = (key, id) :=
    List.inj_on_of_nodup_map listed.slots there.1 here same
  exact there.2 (congrArg Prod.fst equal)

/-! ## The most recently used key -/

theorem Listed.put_last {slots : Array (Slot L)} (listed : cache.Listed)
    (fresh : ∀ entry ∈ cache.others key, entry.2 ≠ id) (grown : cache.slots.size ≤ slots.size)
    (within : id < slots.size) :
    { cache with entries := cache.others key ++ [(key, id)], slots }.Listed where
  keys := by
    simp only [List.map_append, List.map_cons, List.map_nil]
    refine List.nodup_append.mpr
      ⟨((others_sublist cache key).map Prod.fst).nodup listed.keys, by simp, ?_⟩
    intro first memberFirst last memberLast same
    subst same
    obtain ⟨entry, member, rfl⟩ := List.mem_map.mp memberFirst
    exact (mem_others.mp member).2 (by simpa using memberLast)
  slots := by
    simp only [List.map_append, List.map_cons, List.map_nil]
    refine List.nodup_append.mpr
      ⟨((others_sublist cache key).map Prod.snd).nodup listed.slots, by simp, ?_⟩
    intro first memberFirst last memberLast same
    subst same
    obtain ⟨entry, member, rfl⟩ := List.mem_map.mp memberFirst
    exact fresh entry member (by simpa using memberLast)
  within := by
    intro entry member
    rcases List.mem_append.mp member with before | last
    · exact Nat.lt_of_lt_of_le (listed.within entry (mem_others.mp before).1) grown
    · rw [List.mem_singleton.mp last]
      exact within

theorem Listed.touch (listed : cache.Listed) (found : cache.find? key = some id) :
    (cache.touch key id).Listed :=
  listed.put_last (fun _ => listed.slot_ne found) (Nat.le_refl _)
    (listed.within _ (mem_of_find? found))

theorem slotFor_of_some (found : cache.find? key = some id) :
    cache.slotFor key = (id, cache.touch key id) := by
  simp [slotFor, found]

theorem slotFor_of_none (absent : cache.find? key = none) :
    cache.slotFor key =
      (cache.slots.size,
        { cache with
          entries := cache.others key ++ [(key, cache.slots.size)]
          slots := cache.slots.push {} }) := by
  simp [slotFor, absent, others_eq_self absent]

theorem slotFor_entries (cache : Cache L) (key : String) :
    (cache.slotFor key).2.entries = cache.others key ++ [(key, (cache.slotFor key).1)] := by
  cases found : cache.find? key with
  | none => rw [slotFor_of_none found]
  | some id =>
      rw [slotFor_of_some found]
      rfl

theorem Listed.slotFor_fresh (listed : cache.Listed) (key : String) :
    ∀ entry ∈ cache.others key, entry.2 ≠ (cache.slotFor key).1 := by
  intro entry member
  cases found : cache.find? key with
  | none =>
      rw [slotFor_of_none found]
      exact Nat.ne_of_lt (listed.within entry (mem_others.mp member).1)
  | some id =>
      rw [slotFor_of_some found]
      exact listed.slot_ne found member

theorem Listed.slotFor_within (listed : cache.Listed) (key : String) :
    (cache.slotFor key).1 < (cache.slotFor key).2.slots.size := by
  cases found : cache.find? key with
  | none => simp [slotFor_of_none found]
  | some id =>
      rw [slotFor_of_some found]
      exact listed.within _ (mem_of_find? found)

theorem Listed.slotFor (listed : cache.Listed) (key : String) :
    (cache.slotFor key).2.Listed := by
  have fresh := listed.slotFor_fresh key
  have within := listed.slotFor_within key
  cases found : cache.find? key with
  | none =>
      rw [slotFor_of_none found] at fresh within ⊢
      exact listed.put_last fresh (by simp) within
  | some id =>
      rw [slotFor_of_some found]
      exact listed.touch found

theorem slotFor_find? (cache : Cache L) (key other : String) :
    (cache.slotFor key).2.find? other =
      if other = key then some (cache.slotFor key).1 else cache.find? other := by
  rw [find?, slotFor_entries, List.lookup_append, lookup_others]
  by_cases same : other = key
  · simp [same]
  · have passed : (other == key) = false := beq_eq_false_iff_ne.mpr same
    simp [same, List.lookup_cons, passed]

theorem touch_find? (found : cache.find? key = some id) (other : String) :
    (cache.touch key id).find? other = cache.find? other := by
  have looked := slotFor_find? cache key other
  rw [slotFor_of_some found] at looked
  rw [looked]
  split
  · next same => rw [same, found]
  · rfl

@[simp]
theorem slotFor_capacity (cache : Cache L) (key : String) :
    (cache.slotFor key).2.capacity = cache.capacity := by
  unfold slotFor
  split <;> rfl

@[simp]
theorem slotFor_failurePolicy (cache : Cache L) (key : String) :
    (cache.slotFor key).2.failurePolicy = cache.failurePolicy := by
  unfold slotFor
  split <;> rfl

@[simp]
theorem slotFor_held (cache : Cache L) (key : String) :
    (cache.slotFor key).2.held = cache.held := by
  unfold slotFor
  split <;> rfl

@[simp]
theorem slotFor_published (cache : Cache L) (key : String) :
    (cache.slotFor key).2.published = cache.published := by
  unfold slotFor
  split <;> rfl

/-! ## Slots -/

@[simp]
theorem slot_touch (cache : Cache L) (key : String) (id other : SlotId) :
    (cache.touch key id).slot other = cache.slot other := rfl

/-- A slot that is made is vacant, as any slot that was not made counts as being. -/
@[simp]
theorem slot_slotFor (cache : Cache L) (key : String) (other : SlotId) :
    (cache.slotFor key).2.slot other = cache.slot other := by
  cases found : cache.find? key with
  | none =>
      rw [slotFor_of_none found]
      simp only [slot, Array.getD_eq_getD_getElem?, Array.getElem?_push]
      split
      · next last => simp [last]
      · rfl
  | some id => simp [slotFor_of_some found]

theorem slot_of_size_le (beyond : cache.slots.size ≤ id) : cache.slot id = {} := by
  simp [slot, Array.getElem?_eq_none beyond]

theorem slot_setSlot (cache : Cache L) (id other : SlotId) (slot : Slot L) :
    (cache.setSlot id slot).slot other =
      if other = id ∧ id < cache.slots.size then slot else cache.slot other := by
  simp only [Cache.slot, setSlot, Array.getD_eq_getD_getElem?, Array.getElem?_setIfInBounds]
  by_cases same : id = other
  · subst id
    by_cases within : other < cache.slots.size <;> simp [within]
  · simp [same, Ne.symm same]

theorem slot_setSlot_self (slot : Slot L) (within : id < cache.slots.size) :
    (cache.setSlot id slot).slot id = slot := by
  simp [slot_setSlot, within]

theorem slot_setSlot_of_ne {other : SlotId} (slot : Slot L) (different : other ≠ id) :
    (cache.setSlot id slot).slot other = cache.slot other := by
  simp [slot_setSlot, different]

@[simp]
theorem size_setSlot (cache : Cache L) (id : SlotId) (slot : Slot L) :
    (cache.setSlot id slot).slots.size = cache.slots.size := by
  simp [setSlot]

theorem Listed.setSlot (listed : cache.Listed) (id : SlotId) (slot : Slot L) :
    (cache.setSlot id slot).Listed :=
  listed.congr rfl (size_setSlot cache id slot)

end Cache
end Templating
