import Mathlib.Data.List.Perm.Subperm
import Templating.Proofs.Cache.Calls

/-!
What a call does to the cache once its compile has ended.

`Settles` describes the cache that a call leaves by the one that its compile has left: the slot of
the call takes the outcome, a slot that never came to hold anything leaves the list, and of the rest
the first slots that nobody holds leave it until the capacity is kept.
-/

namespace Templating

variable {L : Type u}

namespace Cache

variable {cache inside after : Cache L} {key : String} {slot : SlotId} {fingerprint : Fingerprint}
  {outcome : Except TemplateError (Artifact L)}

/-- What a compile leaves in the slot that it was made for. -/
def outcomeSlot (cache : Cache L) (slot : SlotId) (fingerprint : Fingerprint) :
    Except TemplateError (Artifact L) → Slot L
  | .ok artifact => ⟨.ready ⟨cache.published, artifact⟩, .ready⟩
  | .error error =>
      match cache.failurePolicy with
      | .remember => ⟨.failed fingerprint error, .failed⟩
      | .retry => cache.slot slot

/-- A failure that is not remembered takes a vacant slot off the list, if it is still the one of its
key. -/
def Drops (cache : Cache L) (key : String) (slot : SlotId)
    (outcome : Except TemplateError (Artifact L)) : Prop :=
  cache.failurePolicy = .retry ∧ outcome.isOk = false ∧ (cache.slot slot).state.status = .vacant ∧
    cache.find? key = some slot

instance (cache : Cache L) (key : String) (slot : SlotId)
    (outcome : Except TemplateError (Artifact L)) : Decidable (cache.Drops key slot outcome) :=
  inferInstanceAs (Decidable (_ ∧ _ ∧ _ ∧ _))

def outcomeEntries (cache : Cache L) (key : String) (slot : SlotId)
    (outcome : Except TemplateError (Artifact L)) : List (String × SlotId) :=
  if cache.Drops key slot outcome then cache.others key else cache.entries

def settledIn (cache : Cache L) (entry : String × SlotId) : Bool :=
  (cache.slot entry.2).isSettled

/-- The entries that are left when the least recently used settled ones that are not among the locked
are gone, as many as there are settled ones beyond the capacity. -/
def trimmed (cache : Cache L) (locked : List SlotId) (entries : List (String × SlotId)) :
    List (String × SlotId) :=
  match cache.capacity with
  | none => entries
  | some capacity =>
      spared (fun entry => cache.settledIn entry && !locked.contains entry.2)
        (entries.countP cache.settledIn - capacity) entries

/-- What a call leaves whose compile has come to an outcome, where `locked` are the slots that are
held when the compile ends. -/
structure Settles (key : String) (slot : SlotId) (fingerprint : Fingerprint)
    (outcome : Except TemplateError (Artifact L)) (locked : List SlotId) (inside after : Cache L) :
    Prop where
  own : after.slot slot = inside.outcomeSlot slot fingerprint outcome
  others : ∀ other, other ≠ slot → after.slot other = inside.slot other
  entries : after.entries = after.trimmed locked (inside.outcomeEntries key slot outcome)
  held : after.held = locked.erase slot
  capacity : after.capacity = inside.capacity
  failurePolicy : after.failurePolicy = inside.failurePolicy
  size : after.slots.size = inside.slots.size

theorem settles_of_kept {written : Cache L}
    (own : written.slot slot = inside.outcomeSlot slot fingerprint outcome)
    (others : ∀ other, other ≠ slot → written.slot other = inside.slot other)
    (entries : written.entries = inside.outcomeEntries key slot outcome)
    (held : written.held = inside.held) (capacity : written.capacity = inside.capacity)
    (failurePolicy : written.failurePolicy = inside.failurePolicy)
    (size : written.slots.size = inside.slots.size) :
    Settles key slot fingerprint outcome inside.held inside
      (written.enforceCapacity.1.release slot) := by
  rw [enforceCapacity_eq]
  refine ⟨own, others, ?_, congrArg (List.erase · slot) held, capacity, failurePolicy, size⟩
  simp only [release, kept, trimmed, ← entries]
  cases bound : written.capacity with
  | none => rfl
  | some bound =>
      have victims : written.victim =
          fun entry => written.settledIn entry && !inside.held.contains entry.2 := by
        funext entry
        simp only [victim, isEvictable, isHeld, settledIn, held]
      rw [victims]
      rfl

theorem slot_publish_write (within : slot < cache.slots.size) (state : SlotState L) (other : SlotId) :
    ((cache.write slot state).publish slot).slot other =
      if other = slot then ⟨state, state.status⟩ else cache.slot other := by
  rw [publish_write within, slot_setSlot]
  simp [within]

theorem discard_rest (cache : Cache L) (key : String) (slot : SlotId) :
    (cache.discard key slot).held = cache.held ∧
      (cache.discard key slot).capacity = cache.capacity ∧
      (cache.discard key slot).failurePolicy = cache.failurePolicy ∧
      (cache.discard key slot).slots.size = cache.slots.size := by
  unfold discard
  split <;> exact ⟨rfl, rfl, rfl, rfl⟩

theorem discard_slot (cache : Cache L) (key : String) (slot other : SlotId) :
    (cache.discard key slot).slot other = cache.slot other := by
  unfold discard
  split <;> rfl

end Cache

theorem Session.settle_settles {session : Session L} {slot : SlotId}
    (within : slot < session.cache.slots.size) (key : String) (fingerprint : Fingerprint)
    (outcome : Except TemplateError (Artifact L)) :
    Cache.Settles key slot fingerprint outcome session.cache.held session.cache
      (session.settle slot key fingerprint outcome).2.cache := by
  rw [settle_cache]
  cases outcome with
  | ok artifact =>
      let numbered : Cache L := { session.cache with published := session.cache.published + 1 }
      let filled : SlotState L := .ready ⟨session.cache.published, artifact⟩
      have slots : ∀ other, ((numbered.write slot filled).publish slot).slot other =
          if other = slot then ⟨filled, filled.status⟩ else session.cache.slot other :=
        Cache.slot_publish_write within filled
      refine Cache.settles_of_kept ((slots slot).trans (if_pos rfl))
        (fun other different => (slots other).trans (if_neg different)) ?entries rfl rfl rfl ?size
      case entries => simp [Cache.outcomeEntries, Cache.Drops, Except.isOk, Except.toBool]; rfl
      case size => simp [settleSlot, Cache.share, Cache.publish, Cache.write, record]
  | error error =>
      cases policy : session.cache.failurePolicy with
      | remember =>
          have slots := Cache.slot_publish_write within (.failed fingerprint error)
          simp only [settleSlot, record_cache, policy]
          refine Cache.settles_of_kept ?own
            (fun other different => (slots other).trans (if_neg different)) ?entries rfl rfl rfl ?size
          case own =>
            rw [slots, if_pos rfl]
            simp [Cache.outcomeSlot, policy, SlotState.status]
          case entries => simp [Cache.outcomeEntries, Cache.Drops, policy]; rfl
          case size => simp [Cache.publish, Cache.write]
      | retry =>
          have own : session.cache.outcomeSlot slot fingerprint (.error error) =
              session.cache.slot slot := by
            simp [Cache.outcomeSlot, policy]
          simp only [settleSlot, record_cache, policy]
          split
          · next vacant =>
              have left : (session.cache.discard key slot).entries =
                  session.cache.outcomeEntries key slot (.error error) := by
                by_cases current : session.cache.find? key = some slot
                · simp [Cache.outcomeEntries, Cache.Drops, Cache.discard, Cache.isCurrent, policy,
                    vacant, current, SlotState.status, Except.isOk, Except.toBool, Cache.unlist]
                · simp [Cache.outcomeEntries, Cache.Drops, Cache.discard, Cache.isCurrent, current]
              have rest := Cache.discard_rest session.cache key slot
              exact Cache.settles_of_kept ((Cache.discard_slot _ _ _ _).trans own.symm)
                (fun other _ => Cache.discard_slot _ _ _ _) left rest.1 rest.2.1 rest.2.2.1 rest.2.2.2
          · next filled =>
              refine Cache.settles_of_kept own.symm (fun _ _ => rfl) ?entries rfl rfl rfl rfl
              have occupied : (session.cache.slot slot).state.status ≠ .vacant := by
                cases state : (session.cache.slot slot).state <;> simp_all [SlotState.status]
              simp [Cache.outcomeEntries, Cache.Drops, occupied]

/-! ## How many settled slots are left -/

namespace Cache

theorem countP_spared {victim counted : α → Bool}
    (counts : ∀ entry, victim entry = true → counted entry = true) (count : Nat) (entries : List α) :
    (spared victim count entries).countP counted =
      entries.countP counted - min count (entries.countP victim) := by
  induction entries generalizing count with
  | nil => simp
  | cons entry rest ih =>
      have fewer : rest.countP victim ≤ rest.countP counted :=
        List.countP_mono_left fun other _ => counts other
      cases isVictim : victim entry with
      | true =>
          have counted' : counted entry = true := counts entry isVictim
          cases count with
          | zero => simp
          | succ count =>
              rw [spared_cons_of_victim isVictim, ih]
              simp only [List.countP_cons, counted', isVictim, if_true]
              omega
      | false =>
          rw [spared_cons_of_not_victim isVictim]
          simp only [List.countP_cons, ih, isVictim]
          simp only [Bool.false_eq_true, if_false]
          omega

theorem countP_locked_le {entries : List (String × SlotId)} (distinct : (entries.map Prod.snd).Nodup)
    (locked : List SlotId) :
    (entries.countP fun entry => locked.contains entry.2) ≤ locked.length := by
  have subset : (entries.filter fun entry => locked.contains entry.2).map Prod.snd ⊆ locked := by
    intro slot member
    obtain ⟨entry, kept, rfl⟩ := List.mem_map.mp member
    simpa using (List.mem_filter.mp kept).2
  have nodup : ((entries.filter fun entry => locked.contains entry.2).map Prod.snd).Nodup :=
    (List.filter_sublist.map Prod.snd).nodup distinct
  have few := (nodup.subperm subset).length_le
  simpa [List.countP_eq_length_filter] using few

theorem outcomeEntries_sublist (cache : Cache L) (key : String) (slot : SlotId)
    (outcome : Except TemplateError (Artifact L)) :
    (cache.outcomeEntries key slot outcome).Sublist cache.entries := by
  unfold outcomeEntries
  split
  · exact others_sublist cache key
  · exact List.Sublist.refl _

/-- Beyond the capacity only slots that are held stay. -/
theorem Settles.settledCount_le {cache after : Cache L} {key : String} {slot : SlotId}
    {fingerprint : Fingerprint} {outcome : Except TemplateError (Artifact L)} {locked : List SlotId}
    (settles : Settles key slot fingerprint outcome locked cache after) (listed : cache.Listed)
    {capacity : Nat} (bound : cache.capacity = some capacity) :
    after.settledCount ≤ max capacity locked.length := by
  let entries := cache.outcomeEntries key slot outcome
  let victim : String × SlotId → Bool :=
    fun entry => after.settledIn entry && !locked.contains entry.2
  have left : after.entries =
      spared victim (entries.countP after.settledIn - capacity) entries := by
    rw [settles.entries, trimmed, settles.capacity.trans bound]
  have count : after.settledCount = entries.countP after.settledIn -
      min (entries.countP after.settledIn - capacity) (entries.countP victim) := by
    change after.entries.countP after.settledIn = _
    rw [left]
    refine countP_spared (fun entry isVictim => ?_) _ _
    exact (Bool.and_eq_true_iff.mp isVictim).1
  have distinct : (entries.map Prod.snd).Nodup :=
    ((cache.outcomeEntries_sublist key slot outcome).map Prod.snd).nodup listed.slots
  have busy := countP_locked_le distinct locked
  have split : entries.countP after.settledIn ≤
      entries.countP (fun entry => locked.contains entry.2) + entries.countP victim := by
    rw [List.countP_eq_countP_filter_add entries after.settledIn fun entry => locked.contains entry.2]
    refine Nat.add_le_add ?_ (Nat.le_of_eq List.countP_filter)
    rw [List.countP_eq_length_filter (l := entries)]
    exact List.countP_le_length
  omega

end Cache
end Templating
