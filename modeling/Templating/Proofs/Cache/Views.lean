import Mathlib.Tactic.TFAE
import Templating.Proofs.Cache.Filing

/-!
What a cache shows of its slots.

The views of a cache read the statuses of the listed slots and take no locks, while a look-up reads the
state itself.  A slot settles when its status is brought in step with what was written into it; the history
of all settlings tells what each slot last settled to, and the statuses follow it.  `Follows` states what
the views make of that, and `Agrees` that where nobody compiles they agree with a look-up.
-/

namespace Templating

variable {L : Type u}

/-- Which slots settled to what, the latest first. -/
abbrev Settlements (L : Type u) := List (SlotId × SlotState L)

/-- What a slot last settled to; a slot that has never settled is vacant. -/
def Settlements.last (settlements : Settlements L) (slot : SlotId) : SlotState L :=
  (settlements.lookup slot).getD .vacant

/-- What a slot settles to by a call that comes to a result.  A failure that is not remembered leaves the
slot as it was. -/
def settlement? (failurePolicy : FailurePolicy) (slot : SlotId) (fingerprint : Fingerprint) :
    Except TemplateError (Shared (Artifact L)) → Option (SlotId × SlotState L)
  | .ok artifact => some (slot, .ready artifact)
  | .error error =>
      match failurePolicy with
      | .remember => some (slot, .failed fingerprint error)
      | .retry => none

theorem settlement?_slot {failurePolicy : FailurePolicy} {slot other : SlotId}
    {fingerprint : Fingerprint} {result : Except TemplateError (Shared (Artifact L))}
    {state : SlotState L}
    (settles : settlement? failurePolicy slot fingerprint result = some (other, state)) :
    other = slot ∧ state.status ≠ .vacant := by
  cases result with
  | ok artifact =>
      cases settles
      exact ⟨rfl, by simp [SlotState.status]⟩
  | error error =>
      cases failurePolicy with
      | retry => cases settles
      | remember =>
          cases settles
          exact ⟨rfl, by simp [SlotState.status]⟩

namespace Settlements

variable {settlements : Settlements L} {slot other : SlotId} {state : SlotState L}

@[simp]
theorem last_nil (slot : SlotId) : last ([] : Settlements L) slot = .vacant := rfl

@[simp]
theorem last_cons_self : last ((slot, state) :: settlements) slot = state := by
  simp [last]

theorem last_cons_of_ne (different : other ≠ slot) :
    last ((slot, state) :: settlements) other = last settlements other := by
  have passed : (other == slot) = false := beq_eq_false_iff_ne.mpr different
  simp [last, List.lookup_cons, passed]

end Settlements

theorem SlotState.status_eq_ready_iff {state : SlotState L} :
    state.status = .ready ↔ ∃ artifact, state = .ready artifact := by
  cases state <;> simp [SlotState.status]

theorem SlotState.status_eq_vacant_iff {state : SlotState L} :
    state.status = .vacant ↔ state = .vacant := by
  cases state <;> simp [SlotState.status]

namespace Cache

variable {cache : Cache L} {settlements : Settlements L} {written : SlotId → Prop} {key : String}

/-- The views of a cache follow what its slots last settled to, and so do the states of all slots but those
that were `written` and have yet to settle. -/
structure Follows (cache : Cache L) (settlements : Settlements L) (written : SlotId → Prop) : Prop where
  status : ∀ slot, (cache.slot slot).status = (settlements.last slot).status
  state : ∀ slot, ¬ written slot → (cache.slot slot).state = settlements.last slot
  mirror : ∀ slot, ¬ written slot → (cache.slot slot).status = (cache.slot slot).state.status
  nodup : cache.keys.Nodup
  keys : ∀ key, key ∈ cache.keys ↔
    ∃ slot artifact, (key, slot) ∈ cache.entries ∧ settlements.last slot = .ready artifact
  size : cache.size = cache.keys.length
  isEmpty : cache.isEmpty = true ↔ cache.size = 0

/-- No slot is listed that holds nothing, and all ways to ask for a key agree, in a session that uses the
cache while nobody has a lock. -/
structure Agrees (cache : Cache L) : Prop where
  filled : ∀ entry ∈ cache.entries,
    (cache.slot entry.2).state ≠ .vacant ∧ (cache.slot entry.2).status ≠ .vacant
  agree : ∀ session : Session L, session.cache = { cache with held := [] } → ∀ key, [
    key ∈ cache.keys,
    ∃ artifact after, session.get key = some (some artifact, after),
    ∃ after, session.contains key = some (true, after),
    (session.remove key).1 = true].TFAE

theorem mem_keys_iff : key ∈ cache.keys ↔
    ∃ slot, (key, slot) ∈ cache.entries ∧ (cache.slot slot).status = .ready := by
  simp [keys, Slot.isReady]

theorem Listed.keys_nodup (listed : cache.Listed) : cache.keys.Nodup :=
  (List.filter_sublist.map Prod.fst).nodup listed.keys

theorem size_eq_length_keys (cache : Cache L) : cache.size = cache.keys.length := by
  simp [size, keys, List.countP_eq_length_filter]

/-- It is enough that statuses and states follow the history. -/
theorem Listed.follows (listed : cache.Listed)
    (status : ∀ slot, (cache.slot slot).status = (settlements.last slot).status)
    (state : ∀ slot, ¬ written slot → (cache.slot slot).state = settlements.last slot) :
    cache.Follows settlements written where
  status := status
  state := state
  mirror := fun slot settled => by rw [status, state slot settled]
  nodup := listed.keys_nodup
  keys := fun key => by
    simp only [mem_keys_iff, status, SlotState.status_eq_ready_iff, exists_and_left]
  size := cache.size_eq_length_keys
  isEmpty := by simp [isEmpty]

theorem Listed.mem_keys_iff_find? (listed : cache.Listed) : key ∈ cache.keys ↔
    ∃ slot, cache.find? key = some slot ∧ (cache.slot slot).status = .ready := by
  simp only [mem_keys_iff, listed.find?_eq_some_iff]

theorem Listed.cached?_isSome_iff (listed : cache.Listed)
    (mirror : ∀ slot, (cache.slot slot).status = (cache.slot slot).state.status) (key : String) :
    (∃ artifact, cache.cached? key = some artifact) ↔ key ∈ cache.keys := by
  simp only [listed.mem_keys_iff_find?, mirror, SlotState.status_eq_ready_iff, cached?,
    Option.bind_eq_some_iff, artifact?_eq_some_iff]
  exact exists_comm.trans (exists_congr fun slot => exists_and_left)

theorem Listed.agrees (listed : cache.Listed)
    (mirror : ∀ slot, (cache.slot slot).status = (cache.slot slot).state.status)
    (filled : ∀ entry ∈ cache.entries, (cache.slot entry.2).status ≠ .vacant) : cache.Agrees where
  filled := fun entry member => by
    refine ⟨fun vacant => filled entry member ?_, filled entry member⟩
    rw [mirror, vacant, SlotState.status]
  agree := by
    intro session same key
    have shown : cache.keys = session.cache.keys := same ▸ rfl
    rw [shown]
    have listed : session.cache.Listed := same ▸ listed.congr rfl rfl
    have mirror : ∀ slot, (session.cache.slot slot).status = (session.cache.slot slot).state.status :=
      same ▸ mirror
    obtain ⟨looked, got⟩ := Session.exists_get (same ▸ rfl : session.cache.held = []) key
    have cached := listed.cached?_isSome_iff mirror key
    tfae_have 1 ↔ 2 := by
      rw [← cached, got]
      simp
    tfae_have 2 ↔ 3 := by
      simp only [Session.contains, got, Option.map_some, Option.some.injEq, Prod.mk.injEq,
        exists_and_left, exists_eq', and_true, Option.isSome_iff_exists]
    tfae_have 1 ↔ 4 := by
      rw [listed.mem_keys_iff_find?]
      unfold Session.remove
      cases session.cache.find? key <;> simp [Slot.isReady]
    tfae_finish

end Cache
end Templating
