import Mathlib.Logic.Function.Basic
import Templating.Proofs.Cache.Locks

/-!
Which key a slot belongs to.

A slot is made for one key and serves no other, also after it has left the list.  The machine does
not record the key; `Owned` states that some assignment of keys to slots fits the list and all
callers, and every step extends the assignment to the slot that it may make.
-/

namespace Templating

variable {L : Type u}

def Call.key? : Call L → Option String
  | .obtain key _ _ | .get key | .contains key | .remove key => some key
  | .clear | .size | .keys => none

def Phase.slot? : Phase L → Option SlotId
  | .queued slot | .unlisted slot => some slot
  | phase => phase.holds?

theorem Fetches.key? {call : Call L} (fetches : Fetches key call) : call.key? = some key := by
  cases fetches <;> rfl

theorem Cache.discard_entries_sublist (cache : Cache L) (key : String) (slot : SlotId) :
    (cache.discard key slot).entries.Sublist cache.entries := by
  unfold Cache.discard
  split
  · exact Cache.others_sublist cache key
  · exact List.Sublist.refl _

theorem Cache.scanStep_entries_sublist {capacity : Nat} {cache next : Cache L}
    {scan nextScan : Cache.Scan} {evicted : Option String}
    (stepped : cache.scanStep capacity scan = some (nextScan, next, evicted)) :
    next.entries.Sublist cache.entries := by
  obtain ⟨_, _, _, ⟨_, _, rfl⟩ | ⟨_, _, rfl⟩⟩ := Cache.scanStep_cases stepped
  · exact List.eraseIdx_sublist _ _
  · exact List.Sublist.refl _

/-- A caller has a slot in hand only if the slot was made for the key of its call. -/
def Caller.Placed (owner : SlotId → String) (made : Nat) (caller : Caller L) : Prop :=
  ∀ slot, caller.phase.slot? = some slot → slot < made ∧ caller.call.key? = some (owner slot)

theorem Caller.Placed.mono {owner owner' : SlotId → String} {made made' : Nat} {caller : Caller L}
    (placed : caller.Placed owner made) (more : made ≤ made')
    (same : ∀ slot < made, owner' slot = owner slot) : caller.Placed owner' made' := by
  intro slot has
  obtain ⟨within, key⟩ := placed slot has
  exact ⟨Nat.lt_of_lt_of_le within more, by rw [same slot within, key]⟩

variable {index : Nat} {cache cache' : Cache L} {call : Call L} {lock lock' : Option Nat}
  {phase phase' : Phase L} {owner : SlotId → String}

theorem Move.owned (move : Move index cache call lock phase lock' phase' cache')
    (listed : cache.Listed) (entries : ∀ entry ∈ cache.entries, owner entry.2 = entry.1)
    (placed : Caller.Placed owner cache.slots.size ⟨call, phase⟩) :
    ∃ owner', (∀ slot < cache.slots.size, owner' slot = owner slot) ∧
      (∀ entry ∈ cache'.entries, owner' entry.2 = entry.1) ∧
      Caller.Placed owner' cache'.slots.size ⟨call, phase'⟩ := by
  have grows := move.size_le
  have moved (key : String) (slot : SlotId) (found : cache.find? key = some slot) :
      ∀ entry ∈ (cache.touch key slot).entries, owner entry.2 = entry.1 := by
    intro entry member
    rcases List.mem_append.mp member with old | last
    · exact entries entry (Cache.mem_others.mp old).1
    · cases List.mem_singleton.mp last
      exact entries _ (Cache.mem_of_find? found)
  cases move with
  | @seek key =>
      cases found : cache.find? key with
      | some slot =>
          rw [Cache.slotFor_of_some found]
          refine ⟨owner, fun _ _ => rfl, moved key slot found, ?_⟩
          intro _ same
          cases same
          exact ⟨listed.within _ (Cache.mem_of_find? found),
            by rw [entries _ (Cache.mem_of_find? found)]; rfl⟩
      | none =>
          rw [Cache.slotFor_of_none found]
          refine ⟨Function.update owner cache.slots.size key, ?_, ?_, ?_⟩
          · exact fun slot within => Function.update_of_ne (Nat.ne_of_lt within) _ _
          · intro entry member
            rcases List.mem_append.mp member with old | last
            · have before := (Cache.mem_others.mp old).1
              rw [Function.update_of_ne (Nat.ne_of_lt (listed.within entry before))]
              exact entries entry before
            · cases List.mem_singleton.mp last
              exact Function.update_self _ _ _
          · intro _ same
            cases same
            simp [Call.key?]
  | find fetches found =>
      refine ⟨owner, fun _ _ => rfl, moved _ _ found, ?_⟩
      intro _ same
      cases same
      exact ⟨listed.within _ (Cache.mem_of_find? found),
        by rw [fetches.key?, entries _ (Cache.mem_of_find? found)]⟩
  | unlist found =>
      refine ⟨owner, fun _ _ => rfl, fun entry member => entries entry
        ((Cache.others_sublist cache _).subset member), ?_⟩
      intro _ same
      cases same
      exact ⟨listed.within _ (Cache.mem_of_find? found),
        by rw [entries _ (Cache.mem_of_find? found)]; rfl⟩
  | clear => exact ⟨owner, fun _ _ => rfl, fun _ member => (List.not_mem_nil member).elim,
      fun _ has => nomatch has⟩
  | glance | leave | report | restart =>
      exact ⟨owner, fun _ _ => rfl, entries, fun _ has => nomatch has⟩
  | drop =>
      refine ⟨owner, fun _ _ => rfl, fun entry member => entries entry
        ((Cache.discard_entries_sublist cache _ _).subset member), ?_⟩
      exact Caller.Placed.mono placed grows fun _ _ => rfl
  | scan bound stepped =>
      refine ⟨owner, fun _ _ => rfl, fun entry member => entries entry
        ((Cache.scanStep_entries_sublist stepped).subset member), ?_⟩
      exact Caller.Placed.mono placed grows fun _ _ => rfl
  | store | remember | publish =>
      exact ⟨owner, fun _ _ => rfl, entries, Caller.Placed.mono placed grows fun _ _ => rfl⟩
  | _ => exact ⟨owner, fun _ _ => rfl, entries, placed⟩

namespace Machine

/-- The list and all callers agree with an assignment of keys to slots. -/
structure Owned (owner : SlotId → String) (machine : Machine L) : Prop where
  listed : machine.cache.Listed
  entries : ∀ entry ∈ machine.cache.entries, owner entry.2 = entry.1
  callers : ∀ caller ∈ machine.callers, caller.Placed owner machine.cache.slots.size

theorem start_owned {cache : Cache L} (listed : cache.Listed)
    (entries : ∀ entry ∈ cache.entries, owner entry.2 = entry.1) (calls : List (Call L)) :
    (start cache calls).Owned owner := by
  refine ⟨listed, entries, fun caller member slot has => ?_⟩
  obtain ⟨call, _, rfl⟩ := List.mem_map.mp member
  cases has

theorem Owned.step {before after : Machine L} (owned : before.Owned owner)
    (stepped : before.step? index = some after) :
    ∃ owner', (∀ slot < before.cache.slots.size, owner' slot = owner slot) ∧
      after.Owned owner' := by
  obtain ⟨call, phase, lock', phase', cache', found, move, rfl⟩ := step?_eq_some_iff.mp stepped
  obtain ⟨owner', same, entries, placed⟩ :=
    move.owned owned.listed owned.entries (owned.callers _ (List.mem_of_getElem? found))
  exact ⟨owner', same, move.listed owned.listed, entries, forall_mem_set
    (fun caller member => (owned.callers caller member).mono move.size_le same) placed⟩

theorem Owned.key_of_find? {machine : Machine L} {key : String} {slot : SlotId}
    (owned : machine.Owned owner) (found : machine.cache.find? key = some slot) :
    owner slot = key :=
  owned.entries _ (Cache.mem_of_find? found)

end Machine
end Templating
