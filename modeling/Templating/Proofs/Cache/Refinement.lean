import Mathlib.Data.List.Forall2
import Templating.Proofs.Cache.Eviction
import Templating.Proofs.Cache.Ledger
import Templating.Proofs.Cache.Listing

/-!
A cache with one caller is a ledger.

Between calls nobody holds a slot and every listed slot is settled, so that a cache represents
a ledger entry by entry.  While a compile runs, the slot of its key is held and listed last,
and all slots before it are still those of the ledger.
-/

namespace Templating

variable {L : Type u}

namespace Settled

def slot : Settled L → Slot L
  | .ready artifact => ⟨.ready artifact, .ready⟩
  | .failed fingerprint error => ⟨.failed fingerprint error, .failed⟩

@[simp]
theorem slot_isSettled (settled : Settled L) : settled.slot.isSettled = true := by
  cases settled <;> simp [slot, Slot.isSettled]

@[simp]
theorem slot_isReady (settled : Settled L) : settled.slot.isReady = settled.artifact?.isSome := by
  cases settled <;> simp [slot, Slot.isReady, artifact?]

theorem slot_state_ne_vacant (settled : Settled L) : settled.slot.state ≠ .vacant := by
  cases settled <;> simp [slot]

end Settled

theorem Ledger.trim_eq (ledger : Ledger L) :
    ledger.trim =
      { ledger with
        entries :=
          match ledger.capacity.filter (· ≠ 0) with
          | none => ledger.entries
          | some bound => ledger.entries.drop (ledger.entries.length - bound) } := by
  obtain ⟨capacity, failurePolicy, entries, published⟩ := ledger
  match capacity with
  | none => rfl
  | some 0 => rfl
  | some (bound + 1) => rfl

theorem Ledger.touch_of_none {ledger : Ledger L} {key : String}
    (absent : ledger.find? key = none) : ledger.touch key = ledger := by
  simp [touch, absent]

theorem Ledger.others_of_none {ledger : Ledger L} {key : String}
    (absent : ledger.find? key = none) : ledger.others key = ledger.entries := by
  simpa [find?, others, List.lookup_eq_none_iff, ne_comm] using absent

namespace Cache

variable {cache : Cache L} {ledger : Ledger L} {key : String} {id : SlotId}

/-- An entry is listed under the same key in a ledger, with what its slot holds. -/
def Matches (cache : Cache L) (entry : String × SlotId) (listed : String × Settled L) : Prop :=
  entry.1 = listed.1 ∧ cache.slot entry.2 = listed.2.slot

theorem answer?_of_slot {settled : Settled L} (holds : cache.slot id = settled.slot)
    (fingerprint : Fingerprint) :
    cache.answer? id fingerprint = settled.answer? cache.failurePolicy fingerprint := by
  cases settled <;> simp [answer?, holds, Settled.slot, Settled.answer?]

theorem artifact?_of_slot {settled : Settled L} (holds : cache.slot id = settled.slot) :
    cache.artifact? id = settled.artifact? := by
  cases settled <;> simp [artifact?, holds, Settled.slot, Settled.artifact?]

theorem lookup_matches {entries : List (String × SlotId)} {settled : List (String × Settled L)}
    (agree : List.Forall₂ cache.Matches entries settled) (key : String) :
    (entries.lookup key = none ∧ settled.lookup key = none) ∨
      ∃ id held, entries.lookup key = some id ∧ settled.lookup key = some held ∧
        cache.slot id = held.slot := by
  induction agree with
  | nil => simp
  | @cons entry listed entries settled head _ ih =>
      obtain ⟨name, id⟩ := entry
      obtain ⟨other, held⟩ := listed
      obtain ⟨same, holds⟩ := head
      cases same
      by_cases here : key = name
      · subst here
        exact .inr ⟨id, held, by simp, by simp, holds⟩
      · have passed : (key == name) = false := beq_eq_false_iff_ne.mpr here
        simpa only [List.lookup_cons, passed] using ih

theorem filter_matches {entries : List (String × SlotId)} {settled : List (String × Settled L)}
    (agree : List.Forall₂ cache.Matches entries settled) (key : String) :
    List.Forall₂ cache.Matches (entries.filter fun entry => entry.1 ≠ key)
      (settled.filter fun entry => entry.1 ≠ key) := by
  refine List.rel_filter ?_ agree
  intro entry listed same
  simp [same.1]

theorem matches_congr {other : Cache L} {entries : List (String × SlotId)}
    {settled : List (String × Settled L)} (agree : List.Forall₂ cache.Matches entries settled)
    (same : ∀ entry ∈ entries, other.slot entry.2 = cache.slot entry.2) :
    List.Forall₂ other.Matches entries settled := by
  induction agree with
  | nil => exact .nil
  | cons head _ ih =>
      exact .cons ⟨head.1, (same _ (by simp)).trans head.2⟩
        (ih fun entry member => same entry (by simp [member]))

theorem settled_of_matches {entries : List (String × SlotId)}
    {settled : List (String × Settled L)} (agree : List.Forall₂ cache.Matches entries settled) :
    ∀ entry ∈ entries, (cache.slot entry.2).isSettled = true := by
  induction agree with
  | nil => simp
  | cons head _ ih =>
      intro entry member
      rcases List.mem_cons.mp member with rfl | later
      · simp [head.2]
      · exact ih entry later

/-- Between calls a cache is a ledger. -/
structure Represents (cache : Cache L) (ledger : Ledger L) : Prop where
  capacity : cache.capacity = ledger.capacity.filter (· ≠ 0)
  failurePolicy : cache.failurePolicy = ledger.failurePolicy
  published : cache.published = ledger.published
  listed : cache.Listed
  entries : List.Forall₂ cache.Matches cache.entries ledger.entries
  idle : cache.held = []
  bounded : ∀ bound, cache.capacity = some bound → cache.entries.length ≤ bound

theorem create_represents (capacity : Option Nat) (failurePolicy : FailurePolicy) :
    (create capacity failurePolicy : Cache L).Represents { capacity, failurePolicy } where
  capacity := rfl
  failurePolicy := rfl
  published := rfl
  listed := create_listed capacity failurePolicy
  entries := .nil
  idle := rfl
  bounded := by simp [create]

namespace Represents

theorem find?_cases (represents : cache.Represents ledger) (key : String) :
    (cache.find? key = none ∧ ledger.find? key = none) ∨
      ∃ id settled, cache.find? key = some id ∧ ledger.find? key = some settled ∧
        cache.slot id = settled.slot :=
  lookup_matches represents.entries key

theorem others (represents : cache.Represents ledger) (key : String) :
    List.Forall₂ cache.Matches (cache.others key) (ledger.others key) :=
  filter_matches represents.entries key

/-! ## What a caller can tell -/

theorem keys (represents : cache.Represents ledger) : cache.keys = ledger.keys := by
  have agree := represents.entries
  unfold Cache.keys Ledger.keys
  generalize cache.entries = entries at agree
  generalize ledger.entries = settled at agree
  induction agree with
  | nil => rfl
  | @cons entry listed entries settled head _ ih =>
      have ready : (cache.slot entry.2).isReady = listed.2.artifact?.isSome := by simp [head.2]
      simp only [List.filter_cons, ready]
      split
      · simp only [List.map_cons, head.1, ih]
      · exact ih

theorem size (represents : cache.Represents ledger) : cache.size = ledger.size := by
  have same := congrArg List.length represents.keys
  simpa [Cache.keys, Cache.size, Ledger.size, List.countP_eq_length_filter] using same

theorem isEmpty (represents : cache.Represents ledger) : cache.isEmpty = ledger.isEmpty := by
  rw [Cache.isEmpty, represents.size, Ledger.isEmpty, Ledger.size]
  cases ledger.keys <;> simp

/-! ## Calls without a compile -/

theorem touch_of_find? (represents : cache.Represents ledger) {settled : Settled L}
    (found : cache.find? key = some id) (recorded : ledger.find? key = some settled)
    (holds : cache.slot id = settled.slot) :
    (cache.touch key id).Represents (ledger.touch key) := by
  have moved : ledger.touch key =
      { ledger with entries := ledger.others key ++ [(key, settled)] } := by
    simp [Ledger.touch, recorded]
  have entries : List.Forall₂ cache.Matches (cache.others key ++ [(key, id)])
      (ledger.others key ++ [(key, settled)]) :=
    List.rel_append (represents.others key) (.cons ⟨rfl, holds⟩ .nil)
  rw [moved]
  refine ⟨represents.capacity, represents.failurePolicy, represents.published,
    represents.listed.touch found, entries, represents.idle, ?_⟩
  intro bound kept
  have before := represents.bounded bound kept
  have positive : 0 < cache.entries.length := List.length_pos_of_mem (mem_of_find? found)
  have fewer : (cache.others key).length < cache.entries.length := by
    refine List.length_filter_lt_length_iff_exists.mpr ⟨(key, id), mem_of_find? found, by simp⟩
  simp only [Cache.touch, List.length_append, List.length_singleton]
  omega

theorem of_sublist (represents : cache.Represents ledger)
    {shorter : List (String × SlotId)} {settled : List (String × Settled L)}
    (sublist : shorter.Sublist cache.entries) (agree : List.Forall₂ cache.Matches shorter settled) :
    { cache with entries := shorter }.Represents { ledger with entries := settled } where
  capacity := represents.capacity
  failurePolicy := represents.failurePolicy
  published := represents.published
  listed := represents.listed.of_sublist sublist
  entries := agree
  idle := represents.idle
  bounded := fun bound kept => Nat.le_trans sublist.length_le (represents.bounded bound kept)

theorem remove (represents : cache.Represents ledger) (key : String) :
    (cache.unlist key).Represents (ledger.remove key) :=
  represents.of_sublist (others_sublist cache key) (represents.others key)

theorem clear (represents : cache.Represents ledger) : cache.clear.Represents ledger.clear :=
  represents.of_sublist (List.nil_sublist _) .nil

end Represents

/-! ## A compile in progress -/

/-- Where every listed slot is settled and only the last ones are held, the capacity is kept by
dropping entries from the front. -/
theorem kept_of_settled {front back : List (String × SlotId)}
    (split : cache.entries = front ++ back)
    (settled : ∀ entry ∈ cache.entries, (cache.slot entry.2).isSettled = true)
    (free : ∀ entry ∈ front, cache.isHeld entry.2 = false)
    (enough : ∀ bound, cache.capacity = some bound →
      cache.entries.length - bound ≤ front.length) :
    cache.kept =
      match cache.capacity with
      | none => cache.entries
      | some bound => cache.entries.drop (cache.entries.length - bound) := by
  unfold kept
  cases capacity : cache.capacity with
  | none => rfl
  | some bound =>
      have count : cache.settledCount = cache.entries.length := by
        simpa [settledCount, List.countP_eq_length] using settled
      have victims : ∀ entry ∈ front, cache.victim entry = true := by
        intro entry member
        simp [victim, isEvictable, free entry member, settled entry (by simp [split, member])]
      have few := enough bound capacity
      simp only [count]
      rw [split] at few ⊢
      exact spared_append victims few

/-- The slot of a key is held for a compile and listed last. -/
structure Compiling (cache : Cache L) (key : String) (id : SlotId) (ledger : Ledger L) : Prop where
  capacity : cache.capacity = ledger.capacity.filter (· ≠ 0)
  failurePolicy : cache.failurePolicy = ledger.failurePolicy
  published : cache.published = ledger.published
  listed : cache.Listed
  held : cache.held = [id]
  entries : cache.entries = cache.others key ++ [(key, id)]
  others : List.Forall₂ cache.Matches (cache.others key) (ledger.others key)
  /-- The slot is new, or it holds what the key is listed with. -/
  last : (ledger.find? key = none ∧ (cache.slot id).state = .vacant) ∨
    ∃ settled, ledger.find? key = some settled ∧ cache.slot id = settled.slot ∧
      ∀ bound, cache.capacity = some bound → cache.entries.length ≤ bound
  bounded : ∀ bound, cache.capacity = some bound → (cache.others key).length ≤ bound

theorem others_slotFor (cache : Cache L) (key : String) :
    (cache.slotFor key).2.others key = cache.others key := by
  rw [Cache.others, slotFor_entries]
  simp [Cache.others, List.filter_append]

theorem Represents.compiling (represents : cache.Represents ledger) (key : String) :
    ((cache.slotFor key).2.hold (cache.slotFor key).1).Compiling key (cache.slotFor key).1
      ledger where
  capacity := by simpa [hold] using represents.capacity
  failurePolicy := by simpa [hold] using represents.failurePolicy
  published := by simpa [hold] using represents.published
  listed := (represents.listed.slotFor key).hold _
  held := by simp [hold, represents.idle]
  entries := by
    change (cache.slotFor key).2.entries = (cache.slotFor key).2.others key ++ _
    rw [others_slotFor, slotFor_entries]
  others := by
    change List.Forall₂ _ ((cache.slotFor key).2.others key) _
    rw [others_slotFor]
    exact matches_congr (represents.others key) fun entry _ => slot_slotFor cache key entry.2
  last := by
    change (_ ∧ ((cache.slotFor key).2.slot _).state = _) ∨
      ∃ settled, _ ∧ (cache.slotFor key).2.slot _ = _ ∧
        ∀ bound, (cache.slotFor key).2.capacity = _ → (cache.slotFor key).2.entries.length ≤ bound
    rcases represents.find?_cases key with ⟨absent, unrecorded⟩ | ⟨id, settled, found, recorded, holds⟩
    · refine .inl ⟨unrecorded, ?_⟩
      rw [slot_slotFor, slotFor_of_none absent, slot_of_size_le (Nat.le_refl _)]
    · have touched := represents.touch_of_find? found recorded holds
      rw [slotFor_of_some found]
      exact .inr ⟨settled, recorded, holds, touched.bounded⟩
  bounded := by
    intro bound kept
    change ((cache.slotFor key).2.others key).length ≤ bound
    rw [others_slotFor]
    exact Nat.le_trans (others_sublist cache key).length_le
      (represents.bounded bound (by simpa [hold] using kept))

namespace Compiling

theorem within (compiling : cache.Compiling key id ledger) : id < cache.slots.size :=
  compiling.listed.within (key, id) (by rw [compiling.entries]; simp)

theorem find? (compiling : cache.Compiling key id ledger) : cache.find? key = some id :=
  compiling.listed.find?_eq_some_iff.mpr (by rw [compiling.entries]; simp)

theorem slot_ne (compiling : cache.Compiling key id ledger) {entry : String × SlotId}
    (member : entry ∈ cache.others key) : entry.2 ≠ id :=
  compiling.listed.slot_ne compiling.find? member

/-- The entry of the key in progress is put in: its slot is written, the capacity is kept and
the slot is let go. -/
theorem put (compiling : cache.Compiling key id ledger) (settled : Settled L) :
    ((cache.setSlot id settled.slot).enforceCapacity.1.release id).Represents
      (ledger.put key settled) := by
  let written := cache.setSlot id settled.slot
  have split : written.entries = cache.others key ++ [(key, id)] := compiling.entries
  have last : written.slot id = settled.slot :=
    slot_setSlot_self settled.slot compiling.within
  have others : List.Forall₂ written.Matches (cache.others key) (ledger.others key) :=
    matches_congr compiling.others fun entry member =>
      slot_setSlot_of_ne settled.slot (compiling.slot_ne member)
  have agree : List.Forall₂ written.Matches written.entries
      (ledger.others key ++ [(key, settled)]) := by
    rw [split]
    exact List.rel_append others (.cons ⟨rfl, last⟩ .nil)
  have length : written.entries.length = (ledger.others key ++ [(key, settled)]).length :=
    agree.length_eq
  have free : ∀ entry ∈ cache.others key, written.isHeld entry.2 = false := by
    intro entry member
    change cache.held.contains entry.2 = false
    simp [compiling.held, compiling.slot_ne member]
  have positive : ∀ bound, cache.capacity = some bound → bound ≠ 0 := by
    intro bound capacity
    rw [compiling.capacity] at capacity
    simpa using (Option.filter_eq_some_iff.mp capacity).2
  have kept := kept_of_settled split (settled_of_matches agree) free (by
    intro bound capacity
    have nonzero := positive bound capacity
    rw [split, List.length_append, List.length_singleton]
    omega)
  have trimmed : List.Forall₂ written.Matches written.kept (ledger.put key settled).entries := by
    rw [kept, Ledger.put, Ledger.trim_eq, ← compiling.capacity]
    change List.Forall₂ _ (match cache.capacity with | none => _ | some bound => _) _
    cases cache.capacity with
    | none => exact agree
    | some bound =>
        simp only [length]
        exact List.forall₂_drop _ agree
  have short : ∀ bound, cache.capacity = some bound → written.kept.length ≤ bound := by
    intro bound capacity
    have same : written.capacity = some bound := capacity
    rw [kept, same, List.length_drop]
    omega
  rw [enforceCapacity_eq]
  refine ⟨?_, ?_, ?_, ?_, trimmed, ?_, short⟩
  · rw [Ledger.put, Ledger.trim_eq]
    exact compiling.capacity
  · rw [Ledger.put, Ledger.trim_eq]
    exact compiling.failurePolicy
  · rw [Ledger.put, Ledger.trim_eq]
    exact compiling.published
  · exact ((compiling.listed.setSlot id settled.slot).of_sublist (kept_sublist written)).release id
  · simp [release, setSlot, compiling.held]

theorem keep (compiling : cache.Compiling key id ledger)
    (occupied : (cache.slot id).state ≠ .vacant) :
    (cache.enforceCapacity.1.release id).Represents (ledger.touch key) := by
  obtain ⟨_, vacant⟩ | ⟨settled, recorded, holds, few⟩ := compiling.last
  · contradiction
  · have agree : List.Forall₂ cache.Matches cache.entries
        (ledger.others key ++ [(key, settled)]) := by
      rw [compiling.entries]
      exact List.rel_append compiling.others (.cons ⟨rfl, holds⟩ .nil)
    rw [enforceCapacity_eq, kept_eq_self few]
    refine ⟨?_, ?_, ?_, compiling.listed.release id, ?_, by simp [release, compiling.held], few⟩
    all_goals simp only [Ledger.touch, recorded]
    · exact compiling.capacity
    · exact compiling.failurePolicy
    · exact compiling.published
    · exact agree

theorem drop (compiling : cache.Compiling key id ledger)
    (vacant : (cache.slot id).state = .vacant) :
    ((cache.discard key id).enforceCapacity.1.release id).Represents (ledger.touch key) := by
  obtain ⟨absent, _⟩ | ⟨settled, _, holds, _⟩ := compiling.last
  · have dropped : cache.discard key id = cache.unlist key := by
      simp [discard, isCurrent_iff.mpr compiling.find?]
    have agree : List.Forall₂ cache.Matches (cache.others key) ledger.entries := by
      rw [← Ledger.others_of_none absent]
      exact compiling.others
    have few : ∀ bound, (cache.unlist key).capacity = some bound →
        (cache.unlist key).entries.length ≤ bound := compiling.bounded
    rw [dropped, enforceCapacity_eq, kept_eq_self few, Ledger.touch_of_none absent]
    exact ⟨compiling.capacity, compiling.failurePolicy, compiling.published,
      (compiling.listed.of_sublist (others_sublist cache key)).release id, agree,
      by simp [release, unlist, compiling.held], compiling.bounded⟩
  · exact absurd (holds ▸ vacant) settled.slot_state_ne_vacant

end Compiling
end Cache
end Templating
