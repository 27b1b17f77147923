import Templating.Proofs.Cache.Lives
import Templating.Proofs.Cache.Owners

/-!
What a look-up in a cache leaves, and when it need not wait.

A look-up makes its key the most recently used one, whatever the slot of the key holds, and changes nothing
else.  It waits only for a call on the same key: the locks that others have are those of other slots, however
deep compiles are nested and however many callers there are.
-/

namespace Templating

variable {L : Type u}

namespace Cache

variable {cache : Cache L} {key : String} {id : SlotId}

theorem others_touch (found : cache.find? key = some id) :
    (cache.touch key id).others key = cache.others key := by
  have same := others_slotFor cache key
  rwa [slotFor_of_some found] at same

/-- A cache differs from another only in how recently a key was used. -/
structure Retouched (key : String) (before after : Cache L) : Prop where
  rest : after = { before with entries := after.entries }
  entries : after.entries.Perm before.entries
  others : after.others key = before.others key

theorem Retouched.refl (key : String) (cache : Cache L) : Retouched key cache cache :=
  ⟨rfl, .refl _, rfl⟩

theorem Listed.retouched (listed : cache.Listed) (found : cache.find? key = some id) :
    Retouched key cache (cache.touch key id) :=
  ⟨rfl, listed.touch_perm found, others_touch found⟩

theorem Free.touch (free : cache.Free key) (found : cache.find? key = some id) :
    (cache.touch key id).Free key := by
  have again : (cache.touch key id).find? key = some id := (touch_find? found key).trans found
  rw [Free, slotFor_of_some found] at free
  rw [Free, slotFor_of_some again]
  exact free

end Cache

namespace Session

variable {session looked : Session L} {key : String} {found : Option (Shared (Artifact L))}

theorem get_record (session : Session L) (event : Event) (key : String) :
    (session.record event).get key =
      (session.get key).map fun (found, looked) => (found, looked.record event) := by
  simp only [Session.get, record_cache]
  cases session.cache.find? key with
  | none => rfl
  | some slot => cases held : (session.cache.touch key slot).isHeld slot <;> simp [held, Session.record]

theorem get_leaves (listed : session.cache.Listed) (got : session.get key = some (found, looked)) :
    found = session.cache.cached? key ∧ looked.journal = session.journal ∧
      Cache.Retouched key session.cache looked.cache ∧
      (session.cache.Free key → looked.cache.Free key) := by
  simp only [Session.get] at got
  unfold Cache.cached?
  split at got
  · next absent =>
      cases got
      rw [absent]
      exact ⟨rfl, rfl, .refl _ _, id⟩
  · next slot here =>
      split at got
      · contradiction
      · cases got
        rw [here]
        exact ⟨rfl, rfl, listed.retouched here, (·.touch here)⟩

/-- A slot that is not the slot of a running compile is free. -/
theorem Kept.free {pending : List Pending} {settlements : Settlements L}
    (kept : Kept pending settlements session) (elsewhere : ∀ call ∈ pending, call.key ≠ key) :
    session.cache.Free key := by
  have unheld : (session.cache.slotFor key).1 ∉ session.cache.held := by
    intro holds
    cases here : session.cache.find? key with
    | none =>
        rw [Cache.slotFor_of_none here] at holds
        exact Nat.lt_irrefl _ (kept.orderly.made _ holds)
    | some slot =>
        rw [Cache.slotFor_of_some here, kept.held] at holds
        obtain ⟨call, member, same⟩ := List.mem_map.mp holds
        exact elsewhere call member (kept.named call member _ (Cache.mem_of_find? here) same.symm).symm
  simpa [Cache.Free, Cache.isHeld] using unheld

end Session

/-- Nobody has the lock of the slot of a key but callers for the key. -/
theorem Machine.Owned.free {machine : Machine L} {owner : SlotId → String} {key : String}
    (owned : machine.Owned owner) (exclusive : machine.Exclusive)
    (elsewhere : ∀ caller ∈ machine.callers, caller.phase.holds?.isSome →
      caller.call.key? ≠ some key) : machine.cache.Free key := by
  have unheld : (machine.cache.slotFor key).1 ∉ machine.cache.held := by
    intro holds
    obtain ⟨index, caller, there, has⟩ := (exclusive.held _).mp holds
    have member := List.mem_of_getElem? there
    have slot : caller.phase.slot? = some (machine.cache.slotFor key).1 := by
      cases reached : caller.phase <;> simp_all [Phase.holds?, Phase.slot?]
    obtain ⟨within, named⟩ := owned.callers caller member _ slot
    cases here : machine.cache.find? key with
    | none =>
        rw [Cache.slotFor_of_none here] at within
        exact Nat.lt_irrefl _ within
    | some id =>
        rw [Cache.slotFor_of_some here, owned.key_of_find? here] at named
        exact elsewhere caller member (by rw [has]; rfl) named
  simpa [Cache.Free, Cache.isHeld] using unheld

end Templating
