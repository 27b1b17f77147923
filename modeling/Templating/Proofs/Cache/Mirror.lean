import Templating.Proofs.Cache.InFlight
import Templating.Proofs.Cache.Lives
import Templating.Proofs.Cache.Reentry

/-!
The statuses of slots that many callers use at once.

A caller writes the state of its slot first and brings the status in step afterwards, which is when the slot
settles.  A step does either to the slot that its caller holds, or neither to any slot, as `Settling` says.
So the status of a slot is always that of what it last settled to, and its state is that too unless a caller
has written it and not settled it yet.  A slot that is listed while it is still vacant is in the hands of a
caller who is bound to settle it or to take it off the list.

A call that a compile makes is one more caller, who takes steps while the first one compiles.
-/

namespace Templating

variable {L : Type u}

/-- The slot whose state a caller has written and whose status it is about to bring in step. -/
def Phase.publishes? : Phase L → Option SlotId
  | .publishing slot _ => some slot
  | _ => none

/-- The slot that a caller may yet settle. -/
def Phase.awaits? : Phase L → Option SlotId
  | .queued slot | .holding slot | .checking slot => some slot
  | phase => phase.inFlight?

/-- What a slot settles to by the step that a moment is of. -/
def Moment.settlement? (moment : Moment L) : Option (SlotId × SlotState L) :=
  match moment.machine.callers[moment.mover]? with
  | some ⟨.obtain _ fingerprint _, .publishing slot result⟩ =>
      Templating.settlement? moment.machine.cache.failurePolicy slot fingerprint result
  | _ => none

/-- What the slots settled to in the moments of a run. -/
def Settlements.ofMoments (past : List (Moment L)) : Settlements L :=
  past.reverse.filterMap Moment.settlement?

theorem Settlements.ofMoments_append (past : List (Moment L)) (moment : Moment L) :
    ofMoments (past ++ [moment]) = moment.settlement?.toList ++ ofMoments past := by
  simp only [ofMoments, List.reverse_append, List.reverse_singleton, List.singleton_append,
    List.filterMap_cons]
  cases moment.settlement? <;> rfl

namespace Machine

/-- A caller has written the slot and has not settled it yet. -/
def Written (machine : Machine L) (slot : SlotId) : Prop :=
  ∃ caller ∈ machine.callers, caller.phase.publishes? = some slot

/-- A call that may compile has the slot in hand and has not come to a result. -/
def Awaited (machine : Machine L) (slot : SlotId) : Prop :=
  ∃ caller ∈ machine.callers, caller.call.obtains = true ∧ caller.phase.awaits? = some slot

/-- No call that may compile is under way. -/
def Resting (machine : Machine L) : Prop :=
  ∀ caller ∈ machine.callers, caller.call.obtains = true →
    caller.phase = .start ∨ caller.phase.isDone = true

end Machine

/-! ## What a step does to statuses and states -/

/-- What the slots go through in a step of a caller: nothing, or one of them is written or settled. -/
inductive Settling (cache cache' : Cache L) : Call L → Phase L → Phase L → Prop where
  | quiet (before : phase.publishes? = none) (after : phase'.publishes? = none)
      (slots : ∀ other, cache'.slot other = cache.slot other) : Settling cache cache' call phase phase'
  | write (settles : settlement? cache.failurePolicy slot fingerprint result = some (slot, state))
      (status : ∀ other, (cache'.slot other).status = (cache.slot other).status)
      (own : slot < cache.slots.size → (cache'.slot slot).state = state)
      (others : ∀ other, other ≠ slot → (cache'.slot other).state = (cache.slot other).state) :
      Settling cache cache' (.obtain key fingerprint outcome) (.compiled slot written)
        (.publishing slot result)
  | publish (state : ∀ other, (cache'.slot other).state = (cache.slot other).state)
      (own : slot < cache.slots.size → (cache'.slot slot).status = (cache.slot slot).state.status)
      (others : ∀ other, other ≠ slot → (cache'.slot other).status = (cache.slot other).status) :
      Settling cache cache' call (.publishing slot result) (.settled slot result)

/-- Why a caller has done with a slot that it was to settle. -/
inductive Yields (cache cache' : Cache L) (slot : SlotId) : Call L → Phase L → Prop where
  | missed (replaced : cache.isCurrent key slot = false) :
      Yields cache cache' slot (.obtain key fingerprint outcome) (.checking slot)
  | answered (answer : cache.answer? slot fingerprint = some result) :
      Yields cache cache' slot (.obtain key fingerprint outcome) (.reading slot)
  | kept (filled : (cache.slot slot).state ≠ .vacant) :
      Yields cache cache' slot (.obtain key fingerprint outcome) (.compiled slot written)
  | published : Yields cache cache' slot call (.publishing slot result)
  | dropped (discards : cache' = cache.discard key slot) :
      Yields cache cache' slot (.obtain key fingerprint outcome) (.dropping slot error)

section Move

variable {index : Nat} {cache cache' : Cache L} {call : Call L} {lock lock' : Option Nat}
  {phase phase' : Phase L} {slot : SlotId}

theorem Cache.slot_write_status (cache : Cache L) (id other : SlotId) (state : SlotState L) :
    ((cache.write id state).slot other).status = (cache.slot other).status := by
  rw [Cache.write, Cache.slot_setSlot]
  split
  · next here => rw [here.1]
  · rfl

theorem Move.settling (move : Move index cache call lock phase lock' phase' cache') :
    Settling cache cache' call phase phase' := by
  cases move with
  | store =>
      exact .write rfl (fun other => Cache.slot_write_status _ _ _ _)
        (fun within => Cache.slot_write_state_self _ within) fun other => Cache.slot_write_state _
  | remember policy =>
      exact .write (by rw [policy]; rfl) (fun other => Cache.slot_write_status _ _ _ _)
        (fun within => Cache.slot_write_state_self _ within) fun other => Cache.slot_write_state _
  | publish =>
      refine .publish (Cache.slot_publish_state cache _) (fun within => ?_) fun other different => ?_
      · rw [Cache.publish, Cache.slot_setSlot_self _ within]
      · rw [Cache.publish, Cache.slot_setSlot_of_ne _ different]
  | seek => exact .quiet rfl rfl (Cache.slot_slotFor cache _)
  | drop => exact .quiet rfl rfl (Cache.discard_slot cache _ _)
  | scan bound stepped =>
      refine .quiet rfl rfl fun other => ?_
      obtain ⟨_, _, _, ⟨_, _, rfl⟩ | ⟨_, _, rfl⟩⟩ := Cache.scanStep_cases stepped <;> rfl
  | _ => exact .quiet rfl rfl fun _ => rfl

theorem Move.awaits (move : Move index cache call lock phase lock' phase' cache')
    (obtains : call.obtains = true) (awaits : phase.awaits? = some slot) :
    phase'.awaits? = some slot ∨ Yields cache cache' slot call phase := by
  cases move with
  | fetch free plain => rw [plain] at obtains; contradiction
  | miss replaced =>
      cases awaits
      exact .inr (.missed replaced)
  | @read _ call _ _ reads =>
      cases awaits
      cases call with
      | obtain key fingerprint outcome =>
          obtain ⟨_, answer, _⟩ := Machine.answer?_of_read reads
          exact .inr (.answered answer)
      | _ => contradiction
  | keep policy filled =>
      cases awaits
      exact .inr (.kept filled)
  | publish =>
      cases awaits
      exact .inr .published
  | drop =>
      cases awaits
      exact .inr (.dropped rfl)
  | acquire | confirm | pass | begin | compile | store | remember | reject | retract =>
      exact .inl awaits
  | _ => cases awaits

/-- A step lists no slot but one that its caller goes on to use. -/
theorem Move.mem_entries (move : Move index cache call lock phase lock' phase' cache')
    (listed : cache.Listed) {entry : String × SlotId} (member : entry ∈ cache'.entries) :
    entry ∈ cache.entries ∨ (call.obtains = true ∧ phase'.awaits? = some entry.2) := by
  cases move with
  | @seek key =>
      rw [Cache.slotFor_entries] at member
      rcases List.mem_append.mp member with other | last
      · exact .inl (Cache.mem_others.mp other).1
      · rw [List.mem_singleton.mp last]
        exact .inr ⟨rfl, rfl⟩
  | find fetches found => exact .inl ((listed.touch_perm found).mem_iff.mp member)
  | unlist => exact .inl ((Cache.others_sublist cache _).subset member)
  | clear => exact absurd member List.not_mem_nil
  | drop => exact .inl ((Cache.discard_entries_sublist cache _ _).subset member)
  | scan bound stepped => exact .inl ((Cache.scanStep_entries_sublist stepped).subset member)
  | _ => exact .inl member

end Move

/-! ## What a run keeps -/

/-- What a caller has written and not settled yet is what its slot is to settle to. -/
def Caller.Publishes (cache : Cache L) (caller : Caller L) : Prop :=
  ∀ slot result, caller.phase = .publishing slot result →
    ∃ key fingerprint outcome, caller.call = .obtain key fingerprint outcome ∧
      settlement? cache.failurePolicy slot fingerprint result = some (slot, (cache.slot slot).state)

namespace Machine

/-- What the statuses and the states of slots are while callers use them. -/
structure Mirrored (settlements : Settlements L) (machine : Machine L) : Prop where
  status : ∀ slot, (machine.cache.slot slot).status = (settlements.last slot).status
  state : ∀ slot, ¬ machine.Written slot → (machine.cache.slot slot).state = settlements.last slot
  written : ∀ caller ∈ machine.callers, caller.Publishes machine.cache

/-- Vacant slots are listed only while callers are to settle them. -/
def Tended (machine : Machine L) : Prop :=
  ∀ entry ∈ machine.cache.entries, (machine.cache.slot entry.2).status = .vacant →
    machine.Awaited entry.2

theorem start_mirrored (capacity : Option Nat) (failurePolicy : FailurePolicy) (calls : List (Call L)) :
    (start (.create capacity failurePolicy) calls).Mirrored [] where
  status := fun slot => by simp [start, Cache.create, Cache.slot, SlotState.status]
  state := fun slot _ => by simp [start, Cache.create, Cache.slot]
  written := by
    intro caller member slot result publishing
    obtain ⟨call, _, rfl⟩ := List.mem_map.mp member
    cases publishing

section Step

variable {index : Nat} {cache cache' : Cache L} {call : Call L} {lock lock' : Option Nat}
  {phase phase' : Phase L} {callers : List (Caller L)} {slot : SlotId} {settlements : Settlements L}
  {owner : SlotId → String}

theorem mem_set_of_ne {old moved caller : Caller L} (found : callers[index]? = some old)
    (member : caller ∈ callers) (different : caller ≠ old) : caller ∈ callers.set index moved := by
  obtain ⟨other, there⟩ := List.mem_iff_getElem?.mp member
  refine List.mem_iff_getElem?.mpr ⟨other, ?_⟩
  rw [List.getElem?_set_ne, there]
  rintro rfl
  exact different (Option.some.inj (there.symm.trans found))

theorem mem_set_self {old moved : Caller L} (found : callers[index]? = some old) :
    moved ∈ callers.set index moved :=
  List.mem_set (List.getElem?_eq_some_iff.mp found).1 moved

/-- Other callers go on to write what they had written. -/
theorem Written.moved (written : Written ⟨cache, callers, lock⟩ slot)
    (found : callers[index]? = some ⟨call, phase⟩) (other : phase.publishes? ≠ some slot) :
    Written ⟨cache', callers.set index ⟨call, phase'⟩, lock'⟩ slot := by
  obtain ⟨caller, member, publishes⟩ := written
  refine ⟨caller, mem_set_of_ne found member ?_, publishes⟩
  rintro rfl
  exact other publishes

/-- Nobody but its holder has written a slot. -/
theorem Exclusive.not_written (exclusive : Exclusive ⟨cache, callers, lock⟩)
    (found : callers[index]? = some ⟨call, phase⟩) (holds : phase.holds? = some slot)
    (other : phase.publishes? = none) : ¬ Written ⟨cache, callers, lock⟩ slot := by
  intro written
  obtain ⟨caller, member, publishes⟩ := written
  obtain ⟨writer, there⟩ := List.mem_iff_getElem?.mp member
  have theirs : caller.phase.holds? = some slot := by
    cases reached : caller.phase <;> simp_all [Phase.publishes?, Phase.holds?]
  obtain rfl := exclusive.single _ _ _ ⟨caller, there, theirs⟩ ⟨_, found, holds⟩
  cases there.symm.trans found
  rw [other] at publishes
  cases publishes

theorem settlement?_of_quiet (found : callers[index]? = some ⟨call, phase⟩)
    (quiet : phase.publishes? = none) :
    Moment.settlement? ⟨index, ⟨cache, callers, lock⟩⟩ = none := by
  simp only [Moment.settlement?, found]
  split
  · next same =>
      cases same
      cases quiet
  · rfl

theorem Mirrored.written_moved (mirrored : Mirrored settlements ⟨cache, callers, lock⟩)
    (policy : cache'.failurePolicy = cache.failurePolicy)
    (same : ∀ slot, Written ⟨cache, callers, lock⟩ slot →
      (cache'.slot slot).state = (cache.slot slot).state)
    {moved : Caller L} (mover : moved.Publishes cache') :
    ∀ caller ∈ callers.set index moved, caller.Publishes cache' := by
  refine forall_mem_set (fun caller member slot result publishing => ?_) mover
  rw [policy, same slot ⟨caller, member, by rw [publishing]; rfl⟩]
  exact mirrored.written caller member slot result publishing

theorem Mirrored.of_quiet (mirrored : Mirrored settlements ⟨cache, callers, lock⟩)
    (found : callers[index]? = some ⟨call, phase⟩) (policy : cache'.failurePolicy = cache.failurePolicy)
    (before : phase.publishes? = none) (after : phase'.publishes? = none)
    (slots : ∀ other, cache'.slot other = cache.slot other) :
    Mirrored settlements ⟨cache', callers.set index ⟨call, phase'⟩, lock'⟩ where
  status := fun slot => (congrArg Slot.status (slots slot)).trans (mirrored.status slot)
  state := fun slot settled => by
    refine (congrArg Slot.state (slots slot)).trans (mirrored.state slot fun written => settled ?_)
    exact written.moved found (by simp [before])
  written := mirrored.written_moved policy (fun slot _ => congrArg Slot.state (slots slot))
    fun slot result publishing => by
      cases publishing
      cases after

theorem Mirrored.of_write (mirrored : Mirrored settlements ⟨cache, callers, lock⟩)
    {written : Except TemplateError (Artifact L)} {result : Except TemplateError (Shared (Artifact L))}
    (found : callers[index]? = some ⟨call, .compiled slot written⟩)
    (unwritten : ¬ Written ⟨cache, callers, lock⟩ slot)
    (policy : cache'.failurePolicy = cache.failurePolicy)
    (status : ∀ other, (cache'.slot other).status = (cache.slot other).status)
    (others : ∀ other, other ≠ slot → (cache'.slot other).state = (cache.slot other).state)
    (mover : Caller.Publishes cache' ⟨call, .publishing slot result⟩) :
    Mirrored settlements ⟨cache', callers.set index ⟨call, .publishing slot result⟩, lock'⟩ where
  status := fun other => (status other).trans (mirrored.status other)
  state := fun other settled => by
    have different : other ≠ slot := by
      rintro rfl
      exact settled ⟨_, mem_set_self found, rfl⟩
    refine (others other different).trans (mirrored.state other fun written => settled ?_)
    exact written.moved found nofun
  written := by
    refine mirrored.written_moved policy (fun other written => others other ?_) mover
    rintro rfl
    exact unwritten written

theorem Mirrored.of_publish (mirrored : Mirrored settlements ⟨cache, callers, lock⟩)
    {result : Except TemplateError (Shared (Artifact L))}
    (found : callers[index]? = some ⟨call, .publishing slot result⟩)
    (policy : cache'.failurePolicy = cache.failurePolicy)
    (state : ∀ other, (cache'.slot other).state = (cache.slot other).state)
    (own : (cache'.slot slot).status = (cache.slot slot).state.status)
    (others : ∀ other, other ≠ slot → (cache'.slot other).status = (cache.slot other).status) :
    Mirrored ((slot, (cache.slot slot).state) :: settlements)
      ⟨cache', callers.set index ⟨call, .settled slot result⟩, lock'⟩ where
  status := fun other => by
    by_cases same : other = slot
    · rw [same, Settlements.last_cons_self]
      exact own
    · rw [Settlements.last_cons_of_ne same]
      exact (others other same).trans (mirrored.status other)
  state := fun other settled => by
    refine (state other).trans ?_
    by_cases same : other = slot
    · rw [same, Settlements.last_cons_self]
    · rw [Settlements.last_cons_of_ne same]
      refine mirrored.state other fun written => settled (written.moved found fun here => same ?_)
      exact (Option.some.inj here).symm
  written := mirrored.written_moved policy (fun slot _ => state slot) nofun

theorem Mirrored.step {before after : Machine L} (mirrored : before.Mirrored settlements)
    (exclusive : before.Exclusive) (owned : before.Owned owner)
    (stepped : before.step? index = some after) :
    after.Mirrored ((Moment.settlement? ⟨index, before⟩).toList ++ settlements) := by
  obtain ⟨call, phase, lock', phase', cache', found, move, rfl⟩ := step?_eq_some_iff.mp stepped
  have member := List.mem_of_getElem? found
  have policy := move.config_eq.2
  have placed := owned.callers _ member
  cases move.settling with
  | quiet quiet quiet' slots =>
      rw [settlement?_of_quiet found quiet]
      exact mirrored.of_quiet found policy quiet quiet' slots
  | @write slot fingerprint result state key outcome _ settles status own others =>
      rw [settlement?_of_quiet found rfl]
      refine mirrored.of_write found (exclusive.not_written found rfl rfl) policy status others ?_
      intro _ _ publishing
      cases publishing
      exact ⟨key, fingerprint, outcome, rfl, by rw [policy, own (placed slot rfl).1]; exact settles⟩
  | @publish slot call result state own others =>
      obtain ⟨key, fingerprint, outcome, rfl, settles⟩ := mirrored.written _ member slot result rfl
      have settlement : Moment.settlement? ⟨index, before⟩ =
          some (slot, (before.cache.slot slot).state) := by
        simp only [Moment.settlement?, found]
        exact settles
      rw [settlement]
      exact mirrored.of_publish found policy state (own (placed slot rfl).1) others

/-- The status of a slot is vacant only if its holder finds it so. -/
theorem Mirrored.vacant_of_holder (mirrored : Mirrored settlements ⟨cache, callers, lock⟩)
    (exclusive : Exclusive ⟨cache, callers, lock⟩) (found : callers[index]? = some ⟨call, phase⟩)
    (holds : phase.holds? = some slot) (quiet : phase.publishes? = none)
    (vacant : (cache.slot slot).status = .vacant) : (cache.slot slot).state = .vacant := by
  have last := mirrored.state slot (exclusive.not_written found holds quiet)
  have status := mirrored.status slot
  rw [← last] at status
  exact SlotState.status_eq_vacant_iff.mp (status.symm.trans vacant)

theorem Mirrored.filled_of_publishing (mirrored : Mirrored settlements ⟨cache, callers, lock⟩)
    {result : Except TemplateError (Shared (Artifact L))}
    (member : ⟨call, .publishing slot result⟩ ∈ callers) :
    (cache.slot slot).state.status ≠ .vacant := by
  obtain ⟨_, _, _, _, settles⟩ := mirrored.written _ member slot result rfl
  exact (settlement?_slot settles).2

/-- A settled slot stays settled. -/
theorem Mirrored.vacant_before (mirrored : Mirrored settlements ⟨cache, callers, lock⟩)
    (placed : Caller.Placed owner cache.slots.size ⟨call, phase⟩) (member : ⟨call, phase⟩ ∈ callers)
    (settling : Settling cache cache' call phase phase') (vacant : (cache'.slot slot).status = .vacant) :
    (cache.slot slot).status = .vacant ∧ phase.publishes? ≠ some slot := by
  cases settling with
  | quiet quiet _ slots => exact ⟨slots slot ▸ vacant, by simp [quiet]⟩
  | write _ status => exact ⟨status slot ▸ vacant, nofun⟩
  | @publish written _ _ _ own others =>
      have different : slot ≠ written := by
        rintro rfl
        rw [own (placed slot rfl).1] at vacant
        exact mirrored.filled_of_publishing member vacant
      refine ⟨others slot different ▸ vacant, fun same => different ?_⟩
      exact (Option.some.inj same).symm

/-- A slot that its caller has done with has settled or is off the list. -/
theorem Mirrored.not_mem_of_yields (mirrored : Mirrored settlements ⟨cache, callers, lock⟩)
    (exclusive : Exclusive ⟨cache, callers, lock⟩) (owned : Owned owner ⟨cache, callers, lock⟩)
    (found : callers[index]? = some ⟨call, phase⟩) {entry : String × SlotId}
    (yields : Yields cache cache' entry.2 call phase) (vacant : (cache.slot entry.2).status = .vacant)
    (quiet : phase.publishes? ≠ some entry.2) (listed : entry ∈ cache.entries) :
    entry ∉ cache'.entries := by
  have placed := owned.callers _ (List.mem_of_getElem? found) entry.2
  rw [owned.entries entry listed] at placed
  have here : cache.find? entry.1 = some entry.2 := owned.listed.find?_eq_some_iff.mpr listed
  cases yields with
  | missed replaced =>
      cases Option.some.inj (placed rfl).2
      rw [Cache.isCurrent_iff.mpr here] at replaced
      contradiction
  | answered answer =>
      -- Whoever has the lock sees the state that the status tells of.
      have state := mirrored.vacant_of_holder exclusive found rfl rfl vacant
      simp [Cache.answer?, state] at answer
  | kept filled => exact absurd (mirrored.vacant_of_holder exclusive found rfl rfl vacant) filled
  | published => exact absurd rfl quiet
  | dropped discards =>
      cases Option.some.inj (placed rfl).2
      rw [discards, Cache.discard, if_pos (Cache.isCurrent_iff.mpr here)]
      exact fun stays => (Cache.mem_others.mp stays).2 rfl

theorem Tended.step {before after : Machine L} (tended : before.Tended)
    (mirrored : before.Mirrored settlements) (exclusive : before.Exclusive) (owned : before.Owned owner)
    (stepped : before.step? index = some after) : after.Tended := by
  -- By the slot: it is new, or its caller was there before and either goes on or has done with it.
  obtain ⟨call, phase, lock', phase', cache', found, move, rfl⟩ := step?_eq_some_iff.mp stepped
  have member := List.mem_of_getElem? found
  intro entry listed vacant
  rcases move.mem_entries owned.listed listed with old | ⟨obtains, awaits⟩
  · obtain ⟨vacant, quiet⟩ := mirrored.vacant_before (owned.callers _ member) member move.settling vacant
    obtain ⟨caller, there, obtains, awaits⟩ := tended entry old vacant
    by_cases same : caller = ⟨call, phase⟩
    · subst same
      rcases move.awaits obtains awaits with still | yields
      · exact ⟨_, mem_set_self found, obtains, still⟩
      · exact absurd listed (mirrored.not_mem_of_yields exclusive owned found yields vacant quiet old)
    · exact ⟨caller, mem_set_of_ne found there same, obtains, awaits⟩
  · exact ⟨_, mem_set_self found, obtains, awaits⟩

end Step

variable {capacity : Option Nat} {failurePolicy : FailurePolicy} {calls : List (Call L)}
  {past : List (Moment L)} {machine : Machine L}

theorem Run.mirrored (run : Run (.start (.create capacity failurePolicy) calls) past machine) :
    machine.Mirrored (.ofMoments past) ∧ machine.Tended := by
  induction run with
  | start =>
      exact ⟨start_mirrored capacity failurePolicy calls, fun _ member => absurd member List.not_mem_nil⟩
  | step run stepped ih =>
      have exclusive := run.reachable.exclusive rfl
      obtain ⟨_, explained⟩ := run.reachable.explained
      rw [Settlements.ofMoments_append]
      exact ⟨ih.1.step exclusive explained.owned stepped,
        ih.2.step ih.1 exclusive explained.owned stepped⟩

theorem Mirrored.follows {settlements : Settlements L} (mirrored : machine.Mirrored settlements)
    (listed : machine.cache.Listed) : machine.cache.Follows settlements machine.Written :=
  listed.follows mirrored.status mirrored.state

theorem Resting.agrees (resting : machine.Resting) {settlements : Settlements L}
    (mirrored : machine.Mirrored settlements) (tended : machine.Tended) (exclusive : machine.Exclusive)
    (listed : machine.cache.Listed) : machine.cache.Agrees := by
  have idle : ∀ caller ∈ machine.callers, caller.call.obtains = true →
      caller.phase.awaits? = none ∧ caller.phase.publishes? = none := by
    intro caller member obtains
    rcases resting caller member obtains with started | done
    · simp [started, Phase.awaits?, Phase.inFlight?, Phase.publishes?]
    · cases reached : caller.phase <;>
        simp_all [Phase.isDone, Phase.awaits?, Phase.inFlight?, Phase.publishes?]
  refine listed.agrees (fun slot => (mirrored.follows listed).mirror slot ?_) fun entry member vacant => ?_
  · intro written
    obtain ⟨caller, member, publishes⟩ := written
    have proper : caller.phase.isOfObtain = true := by
      cases reached : caller.phase <;> simp_all [Phase.publishes?, Phase.isOfObtain]
    cases (idle caller member (exclusive.proper caller member proper)).2.symm.trans publishes
  · obtain ⟨caller, there, obtains, awaits⟩ := tended entry member vacant
    cases (idle caller there obtains).1.symm.trans awaits

end Machine

/-- While compiles run, nested in one another or for many callers at once, the views of a cache show what
its slots last settled to, and a status differs from the state only where a caller has written the state a
step before.  Where no compile runs nothing vacant is listed, and the views agree with a look-up. -/
theorem views_follow_settlements (capacity : Option Nat) (failurePolicy : FailurePolicy) :
    (∀ pending settlements (session : Session L),
      Session.Lives capacity failurePolicy pending settlements session →
        session.cache.Follows settlements (fun _ => False) ∧ (pending = [] → session.cache.Agrees)) ∧
    ∀ calls past (machine : Machine L),
      Machine.Run (.start (.create capacity failurePolicy) calls) past machine →
        machine.cache.Follows (.ofMoments past) machine.Written ∧
          (machine.Resting → machine.cache.Agrees) := by
  constructor
  · intro pending settlements session lives
    refine ⟨lives.kept.follows, ?_⟩
    rintro rfl
    exact lives.kept.agrees
  · intro calls past machine run
    obtain ⟨mirrored, tended⟩ := run.mirrored
    have exclusive := run.reachable.exclusive rfl
    obtain ⟨_, explained⟩ := run.reachable.explained
    exact ⟨mirrored.follows explained.owned.listed, fun resting =>
      resting.agrees mirrored tended exclusive explained.owned.listed⟩

open Request.Visits (version compiles)

/-- Two callers for one page, the second of whom has a text that does not compile. -/
def revisedPage : List (Call Nat) :=
  [.obtain "page" (version 1) (.ok ⟨"page", version 1, .dynamic, none, "source", 1⟩),
    .obtain "page" (version 2) (.error (.generation []))]

/-- A page that is compiled anew is listed as it was, until its failure is settled. -/
theorem revisedPage_followed :
    (∃ pending settlements, ∃ session : Session Nat,
      Session.Lives (some 1) .retry pending settlements session ∧ pending.length = 1 ∧
      "page" ∈ session.cache.keys ∧ session.cache.Follows settlements fun _ => False) ∧
    (∃ settlements, ∃ session : Session Nat, Session.Lives (some 1) .retry [] settlements session ∧
      "page" ∈ session.cache.keys ∧ session.cache.Agrees) ∧
    (∃ past machine, Machine.Run (.start (.create none .remember) revisedPage) past machine ∧
      machine.Written 0 ∧ "page" ∈ machine.cache.keys ∧
      machine.cache.Follows (.ofMoments past) machine.Written) ∧
    ∃ past machine, Machine.Run (.start (.create none .remember) revisedPage) past machine ∧
      machine.Resting ∧ "page" ∉ machine.cache.keys ∧ machine.cache.Agrees := by
  obtain ⟨lives, _⟩ := views_follow_settlements (L := Nat) (some 1) .retry
  obtain ⟨_, runs⟩ := views_follow_settlements (L := Nat) none .remember
  have begun : Machine.Run (.start (.create none .remember) revisedPage) []
    (.start (.create none .remember) revisedPage) := .start
  refine ⟨?nested, ?alone, ?halfway, ?resting⟩
  case nested =>
    have evaluated :
        ((compiles "page" 1 []).run { cache := .create (some 1) .retry }).any (fun (_, next) =>
          (next.acquire "page" (version 2)).any fun
            | (.granted _, held) => "page" ∈ held.cache.keys
            | _ => false) = true := by decide +kernel
    obtain ⟨⟨report, next⟩, first, evaluated⟩ := (Option.any_eq_true _ _).mp evaluated
    obtain ⟨⟨acquired, held⟩, acquires, evaluated⟩ := (Option.any_eq_true _ _).mp evaluated
    cases acquired with
    | outdated => exact absurd evaluated Bool.false_ne_true
    | answered result => exact absurd evaluated Bool.false_ne_true
    | granted slot =>
        have visits : Request.Visits { cache := .create (some 1) .retry }
            [compiles "page" 1 [], compiles "page" 2 []] [slot] (held.recordAll []) :=
          .later first (.within acquires .now)
        obtain ⟨running, settlements, met, locks⟩ := visits.lives .create
        exact ⟨_, _, _, met, by simpa using congrArg List.length locks, of_decide_eq_true evaluated,
          (lives _ _ _ met).1⟩
  case alone =>
    have evaluated : ((compiles "page" 1 [compiles "part" 1 []]).run
        { cache := .create (some 1) .retry }).any (fun (_, after) => "page" ∈ after.cache.keys) = true := by
      decide +kernel
    obtain ⟨⟨report, after⟩, ran, listed⟩ := (Option.any_eq_true _ _).mp evaluated
    obtain ⟨settlements, met⟩ := Request.run_lives _ .create ran
    exact ⟨_, _, met, of_decide_eq_true listed, (lives _ _ _ met).2 rfl⟩
  case halfway =>
    have run := begun.append_moments (List.replicate 11 0 ++ List.replicate 8 1)
    have written : (Machine.runSchedule (.start (.create none .remember) revisedPage)
        (List.replicate 11 0 ++ List.replicate 8 1)).callers.any
          (fun caller => caller.phase.publishes? = some 0) = true := by decide +kernel
    obtain ⟨caller, member, publishes⟩ := List.any_eq_true.mp written
    exact ⟨_, _, run, ⟨caller, member, of_decide_eq_true publishes⟩, by decide +kernel,
      (runs _ _ _ run).1⟩
  case resting =>
    have run := begun.append_moments (List.replicate 11 0 ++ List.replicate 11 1)
    have ended : (Machine.runSchedule (.start (.create none .remember) revisedPage)
        (List.replicate 11 0 ++ List.replicate 11 1)).callers.all
          (fun caller => caller.phase.isDone) = true := by decide +kernel
    have resting : Machine.Resting _ := fun caller member _ =>
      .inr (List.all_eq_true.mp ended caller member)
    exact ⟨_, _, run, resting, by decide +kernel, (runs _ _ _ run).2 resting⟩

end Templating
