import Templating.Proofs.Cache.Owners

/-!
Where the answers of a cache come from.

What a slot holds is the outcome of a call on the key of the slot, and what a caller is given is
the outcome of its own call or what a slot of its key held.  So each answer is explained by a call
on the same key: one of the same fingerprint, or one that came to an artifact of that fingerprint.
-/

namespace Templating

variable {L : Type u}

/-- A call on the key explains a result for a fingerprint. -/
inductive Explains (calls : List (Call L)) (key : String) (fingerprint : Fingerprint) :
    Except TemplateError (Artifact L) → Prop where
  | asked (member : .obtain key fingerprint result ∈ calls) : Explains calls key fingerprint result
  | cached (member : .obtain key other (.ok artifact) ∈ calls)
      (same : artifact.fingerprint = fingerprint) : Explains calls key fingerprint (.ok artifact)

/-- The state of a slot is the outcome of a call on its key, and a failure only where failures are
remembered. -/
def SlotState.Recorded (failurePolicy : FailurePolicy) (calls : List (Call L)) (key : String) :
    SlotState L → Prop
  | .vacant => True
  | .ready artifact => ∃ fingerprint, .obtain key fingerprint (.ok artifact.content) ∈ calls
  | .failed fingerprint error =>
      failurePolicy = .remember ∧ .obtain key fingerprint (.error error) ∈ calls

/-- What a caller has in hand that has reached the point is the outcome of its call, and what it
answers is explained. -/
def Caller.Justified (calls : List (Call L)) (caller : Caller L) : Prop :=
  match caller.call, caller.phase with
  | .obtain _ _ outcome, .compiled _ result => result = outcome
  | .obtain _ _ outcome, .publishing _ result => result.map Shared.content = outcome
  | .obtain _ _ outcome, .discarding _ error => .error error = outcome
  | .obtain _ _ outcome, .dropping _ error => .error error = outcome
  | .obtain _ _ outcome, .settled _ result => result.map Shared.content = outcome
  | .obtain _ _ outcome, .counting _ result => result.map Shared.content = outcome
  | .obtain _ _ outcome, .scanning _ result _ => result.map Shared.content = outcome
  | .obtain key fingerprint _, .leaving _ answer | .obtain key fingerprint _, .done answer =>
      ∃ result compiled, answer = .obtained result compiled ∧
        Explains calls key fingerprint (result.map Shared.content)
  | .obtain _ _ _, .unlisted _ => False
  | _, _ => True

variable {index : Nat} {cache cache' : Cache L} {call : Call L} {lock lock' : Option Nat}
  {phase phase' : Phase L} {owner : SlotId → String} {calls : List (Call L)}

theorem Cache.answer?_explained {key : String} {slot : SlotId} {fingerprint : Fingerprint}
    {result : Except TemplateError (Shared (Artifact L))}
    (recorded : (cache.slot slot).state.Recorded cache.failurePolicy calls key)
    (answer : cache.answer? slot fingerprint = some result) :
    Explains calls key fingerprint (result.map Shared.content) := by
  unfold Cache.answer? at answer
  split at answer
  · next artifact state =>
      rw [state] at recorded
      obtain ⟨other, member⟩ := recorded
      split at answer
      · next same =>
          cases answer
          exact .cached member same
      · contradiction
  · next failed error state =>
      rw [state] at recorded
      split at answer
      · next same =>
          obtain ⟨rfl, _⟩ := same
          cases answer
          exact .asked recorded.2
      · contradiction
  · contradiction

theorem Move.justified (move : Move index cache call lock phase lock' phase' cache')
    (recorded : ∀ slot, (cache.slot slot).state.Recorded cache.failurePolicy calls (owner slot))
    (placed : Caller.Placed owner cache.slots.size ⟨call, phase⟩) (member : call ∈ calls)
    (justified : Caller.Justified calls ⟨call, phase⟩) :
    Caller.Justified calls ⟨call, phase'⟩ := by
  cases move with
  | @read slot call answer lock reads =>
      cases call with
      | obtain key fingerprint outcome =>
          have mine : key = owner slot := Option.some.inj (placed slot rfl).2
          obtain ⟨result, stored, rfl⟩ := Machine.answer?_of_read reads
          exact ⟨result, false, rfl, mine ▸ Cache.answer?_explained (recorded slot) stored⟩
      | _ => trivial
  | unbounded | scanned =>
      cases call with
      | obtain key fingerprint outcome =>
          refine ⟨_, true, rfl, .asked ?_⟩
          rw [show Except.map Shared.content _ = outcome from justified]
          exact member
      | _ => trivial
  | compile => rfl
  | glance glances => cases glances <;> trivial
  | find fetches => cases fetches <;> trivial
  | fetch | report => cases call <;> trivial
  | _ => first | exact justified | trivial | (cases call <;> trivial)

theorem Move.recorded (move : Move index cache call lock phase lock' phase' cache')
    (recorded : ∀ slot, (cache.slot slot).state.Recorded cache.failurePolicy calls (owner slot))
    (placed : Caller.Placed owner cache.slots.size ⟨call, phase⟩) (member : call ∈ calls)
    (justified : Caller.Justified calls ⟨call, phase⟩) (slot : SlotId) :
    (cache'.slot slot).state.Recorded cache'.failurePolicy calls (owner slot) := by
  rw [move.config_eq.2]
  by_cases writes : ∃ outcome, phase = .compiled slot outcome
  · obtain ⟨outcome, rfl⟩ := writes
    obtain ⟨within, key⟩ := placed slot rfl
    cases move with
    | store =>
        cases Option.some.inj key
        cases justified
        rw [Cache.slot_write_state_self _ (by exact within)]
        exact ⟨_, member⟩
    | remember policy =>
        cases Option.some.inj key
        cases justified
        rw [Cache.slot_write_state_self _ within]
        exact ⟨policy, member⟩
    | reject | keep => exact recorded slot
  · rw [move.slot_state_eq slot fun outcome same => writes ⟨outcome, same⟩]
    exact recorded slot

namespace Machine

/-- All that the slots hold and the callers have in hand is explained. -/
structure Explained (calls : List (Call L)) (owner : SlotId → String) (machine : Machine L) :
    Prop where
  owned : machine.Owned owner
  slots : ∀ slot, (machine.cache.slot slot).state.Recorded machine.cache.failurePolicy calls
    (owner slot)
  callers : ∀ caller ∈ machine.callers, caller.call ∈ calls ∧ caller.Justified calls

theorem start_explained (capacity : Option Nat) (failurePolicy : FailurePolicy)
    (owner : SlotId → String) (calls : List (Call L)) :
    (start (.create capacity failurePolicy) calls).Explained calls owner where
  owned := start_owned (Cache.create_listed capacity failurePolicy) (by simp [Cache.create]) calls
  slots := fun slot => by simp [start, Cache.create, Cache.slot, SlotState.Recorded]
  callers := by
    intro caller member
    obtain ⟨call, asked, rfl⟩ := List.mem_map.mp member
    exact ⟨asked, by cases call <;> trivial⟩

theorem Explained.step {before after : Machine L} (explained : before.Explained calls owner)
    (stepped : before.step? index = some after) :
    ∃ owner', after.Explained calls owner' := by
  obtain ⟨owner', same, owned⟩ := explained.owned.step stepped
  obtain ⟨call, phase, lock', phase', cache', found, move, rfl⟩ := step?_eq_some_iff.mp stepped
  have mover := List.mem_of_getElem? found
  obtain ⟨member, justified⟩ := explained.callers _ mover
  have placed := explained.owned.callers _ mover
  refine ⟨owner', owned, fun slot => ?_, forall_mem_set explained.callers
    ⟨member, move.justified explained.slots placed member justified⟩⟩
  have recorded := move.recorded explained.slots placed member justified slot
  by_cases made : slot < before.cache.slots.size
  · rw [same slot made]
    exact recorded
  · -- A slot that the step makes is vacant.
    have vacant : (before.cache.slot slot).state = .vacant := by
      rw [Cache.slot_of_size_le (Nat.le_of_not_lt made)]
    rw [move.slot_state_eq slot fun outcome compiled => made (placed slot (by rw [compiled]; rfl)).1,
      vacant]
    trivial

theorem Reachable.explained {capacity : Option Nat} {failurePolicy : FailurePolicy}
    {machine : Machine L}
    (reachable : Reachable (start (.create capacity failurePolicy) calls) machine) :
    ∃ owner, machine.Explained calls owner :=
  reachable.preserves (motive := fun machine => ∃ owner, machine.Explained calls owner)
    ⟨fun _ => "", start_explained capacity failurePolicy _ calls⟩
    fun ⟨_, explained⟩ stepped => explained.step stepped

end Machine
end Templating
