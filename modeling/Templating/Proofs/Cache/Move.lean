import Templating.Cache.Machine
import Templating.Proofs.Cache.Eviction
import Templating.Proofs.Cache.Listing

/-!
What one step of a caller can do.

`Move` has one constructor for each step, with all that has to hold for the step to be taken.
Every statement about runs goes through it, and `step?_eq_some_iff` is the only place where the
steps of a machine are opened.
-/

namespace Templating

variable {L : Type u}

def Call.obtains : Call L → Bool
  | .obtain _ _ _ => true
  | _ => false

/-- A call that waits for a slot and goes on to read it, without ever compiling. -/
inductive Fetches : String → Call L → Prop where
  | get : Fetches key (.get key)
  | contains : Fetches key (.contains key)

/-- What a call answers at once that finds nothing or wants no slot. -/
inductive Glances (cache : Cache L) : Call L → Answer L → Prop where
  | get (absent : cache.find? key = none) : Glances cache (.get key) (.found none)
  | contains (absent : cache.find? key = none) : Glances cache (.contains key) (.flag false)
  | remove (absent : cache.find? key = none) : Glances cache (.remove key) (.flag false)
  | size : Glances cache .size (.count cache.size)
  | keys : Glances cache .keys (.listed cache.keys)

/-- What a step makes of the lock of the list, the phase of the caller and the cache. -/
inductive Move (index : Nat) (cache : Cache L) :
    Call L → Option Nat → Phase L → Option Nat → Phase L → Cache L → Prop where
  | enter : Move index cache call none .start (some index) .listing cache
  | seek :
      Move index cache (.obtain key fingerprint outcome) lock .listing none
        (.queued (cache.slotFor key).1) (cache.slotFor key).2
  | find (fetches : Fetches key call) (found : cache.find? key = some slot) :
      Move index cache call lock .listing none (.queued slot) (cache.touch key slot)
  | unlist (found : cache.find? key = some slot) :
      Move index cache (.remove key) lock .listing none (.unlisted slot) (cache.unlist key)
  | clear : Move index cache .clear lock .listing none (.done .cleared) cache.clear
  | glance (glances : Glances cache call answer) :
      Move index cache call lock .listing none (.done answer) cache
  | acquire (free : cache.isHeld slot = false) :
      Move index cache (.obtain key fingerprint outcome) lock (.queued slot) lock (.holding slot)
        (cache.hold slot)
  | fetch (free : cache.isHeld slot = false) (plain : call.obtains = false) :
      Move index cache call lock (.queued slot) lock (.reading slot) (cache.hold slot)
  | confirm : Move index cache call none (.holding slot) (some index) (.checking slot) cache
  | pass (current : cache.isCurrent key slot = true) :
      Move index cache (.obtain key fingerprint outcome) lock (.checking slot) none (.reading slot)
        cache
  | miss (replaced : cache.isCurrent key slot = false) :
      Move index cache (.obtain key fingerprint outcome) lock (.checking slot) none (.outdated slot)
        cache
  | restart : Move index cache call lock (.outdated slot) lock .start (cache.release slot)
  | read (reads : Machine.read cache slot call = .leaving slot answer) :
      Move index cache call lock (.reading slot) lock (.leaving slot answer) cache
  | begin (unanswered : cache.answer? slot fingerprint = none) :
      Move index cache (.obtain key fingerprint outcome) lock (.reading slot) lock (.compiling slot)
        cache
  | compile :
      Move index cache (.obtain key fingerprint outcome) lock (.compiling slot) lock
        (.compiled slot outcome) cache
  | store :
      Move index cache (.obtain key fingerprint outcome) lock (.compiled slot (.ok artifact)) lock
        (.publishing slot (.ok ⟨cache.published, artifact⟩))
        ((cache.share artifact).2.write slot (.ready ⟨cache.published, artifact⟩))
  | remember (policy : cache.failurePolicy = .remember) :
      Move index cache (.obtain key fingerprint outcome) lock (.compiled slot (.error error)) lock
        (.publishing slot (.error error)) (cache.write slot (.failed fingerprint error))
  | reject (policy : cache.failurePolicy = .retry) (vacant : (cache.slot slot).state = .vacant) :
      Move index cache (.obtain key fingerprint outcome) lock (.compiled slot (.error error)) lock
        (.discarding slot error) cache
  | keep (policy : cache.failurePolicy = .retry) (filled : (cache.slot slot).state ≠ .vacant) :
      Move index cache (.obtain key fingerprint outcome) lock (.compiled slot (.error error)) lock
        (.settled slot (.error error)) cache
  | publish :
      Move index cache call lock (.publishing slot result) lock (.settled slot result)
        (cache.publish slot)
  | retract : Move index cache call none (.discarding slot error) (some index) (.dropping slot error)
      cache
  | drop :
      Move index cache (.obtain key fingerprint outcome) lock (.dropping slot error) none
        (.settled slot (.error error)) (cache.discard key slot)
  | unbounded (boundless : cache.capacity = none) :
      Move index cache call lock (.settled slot result) lock
        (.leaving slot (.obtained result true)) cache
  | bounded (bound : cache.capacity = some capacity) :
      Move index cache call none (.settled slot result) (some index) (.counting slot result) cache
  | count :
      Move index cache call lock (.counting slot result) lock
        (.scanning slot result ⟨0, cache.settledCount⟩) cache
  | scan (bound : cache.capacity = some capacity)
      (stepped : cache.scanStep capacity scan = some (nextScan, next, evicted)) :
      Move index cache call lock (.scanning slot result scan) lock
        (.scanning slot result nextScan) next
  | scanned (ended : cache.capacity.bind (cache.scanStep · scan) = none) :
      Move index cache call lock (.scanning slot result scan) none
        (.leaving slot (.obtained result true)) cache
  | leave : Move index cache call lock (.leaving slot answer) lock (.done answer)
      (cache.release slot)
  | report :
      Move index cache call lock (.unlisted slot) lock (.done (.flag (cache.slot slot).isReady))
        cache

theorem Move.of_look (lock : Option Nat) :
    Move index cache call lock .listing none (Machine.look cache call).1
      (Machine.look cache call).2 := by
  cases call with
  | obtain key fingerprint outcome => exact .seek
  | get key =>
      cases found : cache.find? key with
      | none => simpa [Machine.look, found] using .glance (.get found)
      | some slot => simpa [Machine.look, found] using .find .get found
  | contains key =>
      cases found : cache.find? key with
      | none => simpa [Machine.look, found] using .glance (.contains found)
      | some slot => simpa [Machine.look, found] using .find .contains found
  | remove key =>
      cases found : cache.find? key with
      | none => simpa [Machine.look, found] using .glance (.remove found)
      | some slot => simpa [Machine.look, found] using .unlist found
  | clear => exact .clear
  | size => exact .glance .size
  | keys => exact .glance .keys

theorem Move.of_read (lock : Option Nat) :
    Move index cache call lock (.reading slot) lock (Machine.read cache slot call) cache := by
  cases call with
  | obtain key fingerprint outcome =>
      cases answer : cache.answer? slot fingerprint with
      | none => simpa [Machine.read, answer] using .begin answer
      | some result => simpa [Machine.read, answer] using .read (by simp [Machine.read, answer])
  | _ => exact .read rfl

theorem Move.of_settle (lock : Option Nat) (result : Except TemplateError (Artifact L)) :
    Move index cache (.obtain key fingerprint outcome) lock (.compiled slot result) lock
      (Machine.settle cache slot fingerprint result).1
      (Machine.settle cache slot fingerprint result).2 := by
  cases result with
  | ok artifact => exact .store
  | error error =>
      cases policy : cache.failurePolicy with
      | remember => simpa [Machine.settle, policy] using .remember policy
      | retry =>
          cases state : (cache.slot slot).state with
          | vacant => simpa [Machine.settle, policy, state] using .reject policy state
          | _ => simpa [Machine.settle, policy, state] using .keep policy (by simp [state])

namespace Machine

theorem map_lockList_eq_some_iff {machine : Machine L} {index : Nat} {next : Machine L → α}
    {after : α} :
    (machine.lockList index).map next = some after ↔
      machine.listLock = none ∧ next { machine with listLock := some index } = after := by
  unfold lockList
  split
  · next free => simp [free]
  · next taken => simp [taken]

theorem step?_eq_some_iff {machine after : Machine L} {index : Nat} :
    machine.step? index = some after ↔
      ∃ call phase lock nextPhase cache,
        machine.callers[index]? = some ⟨call, phase⟩ ∧
        Move index machine.cache call machine.listLock phase lock nextPhase cache ∧
        after = ⟨cache, machine.callers.set index ⟨call, nextPhase⟩, lock⟩ := by
  constructor
  · intro stepped
    unfold step? at stepped
    split at stepped
    · contradiction
    · next caller found =>
        obtain ⟨call, phase⟩ := caller
        obtain ⟨before, callers, listLock⟩ := machine
        refine ⟨call, phase, ?_⟩
        simp only at found stepped ⊢
        simp only [found, true_and]
        cases phase with
        | start =>
            obtain ⟨free, rfl⟩ := map_lockList_eq_some_iff.mp stepped
            cases free
            exact ⟨_, _, _, .enter, rfl⟩
        | listing =>
            cases stepped
            exact ⟨_, _, _, .of_look listLock, rfl⟩
        | queued slot =>
            cases free : before.isHeld slot with
            | true => simp [free] at stepped
            | false =>
                simp only [free, Bool.false_eq_true, if_false] at stepped
                cases stepped
                cases call with
                | obtain key fingerprint outcome => exact ⟨_, _, _, .acquire free, rfl⟩
                | _ => exact ⟨_, _, _, .fetch free rfl, rfl⟩
        | holding slot =>
            obtain ⟨free, rfl⟩ := map_lockList_eq_some_iff.mp stepped
            cases free
            exact ⟨_, _, _, .confirm, rfl⟩
        | checking slot =>
            cases call with
            | obtain key fingerprint outcome =>
                cases current : before.isCurrent key slot with
                | true =>
                    simp only [current, if_true] at stepped
                    cases stepped
                    exact ⟨_, _, _, .pass current, rfl⟩
                | false =>
                    simp only [current] at stepped
                    cases stepped
                    exact ⟨_, _, _, .miss current, rfl⟩
            | _ => contradiction
        | outdated slot =>
            cases stepped
            exact ⟨_, _, _, .restart, rfl⟩
        | reading slot =>
            cases stepped
            exact ⟨_, _, _, .of_read listLock, rfl⟩
        | compiling slot =>
            cases call with
            | obtain key fingerprint outcome =>
                cases stepped
                exact ⟨_, _, _, .compile, rfl⟩
            | _ => contradiction
        | compiled slot result =>
            cases call with
            | obtain key fingerprint outcome =>
                cases stepped
                exact ⟨_, _, _, .of_settle listLock result, rfl⟩
            | _ => contradiction
        | publishing slot result =>
            cases stepped
            exact ⟨_, _, _, .publish, rfl⟩
        | discarding slot error =>
            obtain ⟨free, rfl⟩ := map_lockList_eq_some_iff.mp stepped
            cases free
            exact ⟨_, _, _, .retract, rfl⟩
        | dropping slot error =>
            cases call with
            | obtain key fingerprint outcome =>
                cases stepped
                exact ⟨_, _, _, .drop, rfl⟩
            | _ => contradiction
        | settled slot result =>
            simp only at stepped
            split at stepped
            · next boundless =>
                cases stepped
                exact ⟨_, _, _, .unbounded boundless, rfl⟩
            · next capacity bound =>
                obtain ⟨free, rfl⟩ := map_lockList_eq_some_iff.mp stepped
                cases free
                exact ⟨_, _, _, .bounded bound, rfl⟩
        | counting slot result =>
            cases stepped
            exact ⟨_, _, _, .count, rfl⟩
        | scanning slot result scan =>
            simp only at stepped
            split at stepped
            · next nextScan next evicted scans =>
                obtain ⟨capacity, bound, scans⟩ := Option.bind_eq_some_iff.mp scans
                cases stepped
                exact ⟨_, _, _, .scan bound scans, rfl⟩
            · next ended =>
                cases stepped
                exact ⟨_, _, _, .scanned ended, rfl⟩
        | leaving slot answer =>
            cases stepped
            exact ⟨_, _, _, .leave, rfl⟩
        | unlisted slot =>
            cases stepped
            exact ⟨_, _, _, .report, rfl⟩
        | done answer => contradiction
  · intro given
    obtain ⟨call, phase, lock, nextPhase, cache, found, move, rfl⟩ := given
    obtain ⟨before, callers, listLock⟩ := machine
    simp only at found move
    cases move with
    | find fetches found =>
        cases fetches <;> simp_all [step?, unlockList, Machine.move, look]
    | glance glances =>
        cases glances <;> simp_all [step?, unlockList, Machine.move, look]
    | fetch free plain =>
        cases call <;> simp_all [step?, Machine.move, afterLock, Call.obtains]
    | keep policy filled =>
        simp only [step?, found, settle, policy, Machine.move]
    | scanned ended => simp only [step?, found, ended, unlockList, Machine.move]
    | _ => simp_all [step?, lockList, unlockList, Machine.move, look, afterLock, Machine.read, settle,
        Cache.share]

theorem Reachable.preserves {initial machine : Machine L} {motive : Machine L → Prop}
    (reachable : Reachable initial machine) (holds : motive initial)
    (kept : ∀ {before after : Machine L} {index : Nat}, motive before →
      before.step? index = some after → motive after) :
    motive machine := by
  induction reachable with
  | refl => exact holds
  | step _ steps ih =>
      obtain ⟨index, stepped⟩ := steps
      exact kept ih stepped

theorem Reachable.runSchedule {initial machine : Machine L} (reachable : Reachable initial machine)
    (schedule : List Nat) : Reachable initial (machine.runSchedule schedule) := by
  induction schedule generalizing machine with
  | nil => exact reachable
  | cons index rest ih =>
      cases stepped : machine.step? index with
      | none => simpa [Machine.runSchedule, stepped] using ih reachable
      | some next => simpa [Machine.runSchedule, stepped] using ih (.step reachable ⟨index, stepped⟩)

/-- What holds of every caller but the one that moves, and of the one that moves where it has
moved to, holds of all. -/
theorem forall_mem_set {callers : List (Caller L)} {index : Nat} {moved : Caller L}
    {Property : Caller L → Prop} (others : ∀ caller ∈ callers, Property caller)
    (mover : Property moved) : ∀ caller ∈ callers.set index moved, Property caller := by
  intro caller member
  rcases List.mem_or_eq_of_mem_set member with old | rfl
  · exact others caller old
  · exact mover

theorem calls_of_step? {before after : Machine L} {index : Nat}
    (stepped : before.step? index = some after) :
    after.callers.map Caller.call = before.callers.map Caller.call := by
  obtain ⟨call, phase, lock, nextPhase, cache, found, _, rfl⟩ := step?_eq_some_iff.mp stepped
  refine List.ext_getElem? fun other => ?_
  by_cases same : other = index
  · subst other
    rw [List.getElem?_map, List.getElem?_map,
      List.getElem?_set_self (List.getElem?_eq_some_iff.mp found).1, found]
    rfl
  · simp [List.getElem?_set_ne (Ne.symm same)]

theorem start_phase {cache : Cache L} {calls : List (Call L)} {index : Nat} {caller : Caller L}
    (found : (start cache calls).callers[index]? = some caller) : caller.phase = .start := by
  obtain ⟨call, _, rfl⟩ := List.mem_map.mp (List.mem_of_getElem? found)
  rfl

/-- A caller is where it was before a step, unless it is the one that has taken the step. -/
theorem caller_of_step? {before after : Machine L} {index mover : Nat} {caller : Caller L}
    (stepped : before.step? mover = some after) (found : after.callers[index]? = some caller) :
    (mover ≠ index ∧ before.callers[index]? = some caller) ∨
      (mover = index ∧ ∃ phase, before.callers[index]? = some ⟨caller.call, phase⟩ ∧
        Move index before.cache caller.call before.listLock phase after.listLock caller.phase
          after.cache) := by
  obtain ⟨call, phase, lock, nextPhase, cache, there, move, rfl⟩ := step?_eq_some_iff.mp stepped
  by_cases same : mover = index
  · subst same
    rw [List.getElem?_set_self (List.getElem?_eq_some_iff.mp there).1] at found
    cases found
    exact .inr ⟨rfl, phase, there, move⟩
  · rw [List.getElem?_set_ne same] at found
    exact .inl ⟨same, found⟩

theorem caller_of_answer? {machine : Machine L} {index : Nat} {answer : Answer L}
    (answered : machine.answer? index = some answer) :
    ∃ call, machine.callers[index]? = some ⟨call, .done answer⟩ := by
  unfold answer? at answered
  split at answered
  · next call answer' found =>
      cases answered
      exact ⟨call, found⟩
  · contradiction

theorem Reachable.calls_eq {cache : Cache L} {calls : List (Call L)} {machine : Machine L}
    (reachable : Reachable (start cache calls) machine) :
    machine.callers.map Caller.call = calls :=
  reachable.preserves (by simp [start, Function.comp_def]) fun same stepped => (calls_of_step? stepped).trans same

theorem call_of_callers {machine : Machine L} {calls : List (Call L)} {index : Nat}
    {caller : Caller L} (same : machine.callers.map Caller.call = calls)
    (found : machine.callers[index]? = some caller) : calls[index]? = some caller.call := by
  simp [← same, found]

end Machine

theorem Machine.answer?_of_read {cache : Cache L} {key : String} {slot : SlotId}
    {fingerprint : Fingerprint} {outcome : Except TemplateError (Artifact L)} {answer : Answer L}
    (reads : Machine.read cache slot (.obtain key fingerprint outcome) = .leaving slot answer) :
    ∃ result, cache.answer? slot fingerprint = some result ∧ answer = .obtained result false := by
  cases stored : cache.answer? slot fingerprint with
  | none => simp [Machine.read, stored] at reads
  | some result =>
      simp only [Machine.read, stored, Phase.leaving.injEq, true_and] at reads
      exact ⟨result, rfl, reads.symm⟩

/-! ## What a move leaves as it is -/

variable {index : Nat} {cache cache' : Cache L} {call : Call L} {lock lock' : Option Nat}
  {phase phase' : Phase L}

theorem Move.config_eq (move : Move index cache call lock phase lock' phase' cache') :
    cache'.capacity = cache.capacity ∧ cache'.failurePolicy = cache.failurePolicy := by
  cases move with
  | seek => simp
  | drop => simp only [Cache.discard, Cache.unlist]; split <;> simp
  | scan bound stepped =>
      obtain ⟨_, _, _, ⟨_, _, rfl⟩ | ⟨_, _, rfl⟩⟩ := Cache.scanStep_cases stepped <;> simp
  | _ => exact ⟨rfl, rfl⟩

theorem Move.size_le (move : Move index cache call lock phase lock' phase' cache') :
    cache.slots.size ≤ cache'.slots.size := by
  cases move with
  | @seek key =>
      cases found : cache.find? key with
      | some slot => rw [Cache.slotFor_of_some found]; exact Nat.le_refl _
      | none => simp [Cache.slotFor_of_none found]
  | store | remember | publish => simp [Cache.write, Cache.publish, Cache.share]
  | drop => simp only [Cache.discard, Cache.unlist]; split <;> simp
  | scan bound stepped =>
      obtain ⟨_, _, _, ⟨_, _, rfl⟩ | ⟨_, _, rfl⟩⟩ := Cache.scanStep_cases stepped <;> simp
  | _ => exact Nat.le_refl _

theorem Cache.slot_write_state {id other : SlotId} (state : SlotState L) (different : other ≠ id) :
    ((cache.write id state).slot other).state = (cache.slot other).state := by
  rw [Cache.write, Cache.slot_setSlot_of_ne _ different]

theorem Cache.slot_write_state_self {id : SlotId} (state : SlotState L)
    (within : id < cache.slots.size) : ((cache.write id state).slot id).state = state := by
  rw [Cache.write, Cache.slot_setSlot_self _ within]

theorem Cache.slot_publish_state (cache : Cache L) (id other : SlotId) :
    ((cache.publish id).slot other).state = (cache.slot other).state := by
  rw [Cache.publish, Cache.slot_setSlot]
  split
  · next here => simp [here.1]
  · rfl

/-- The state of a slot changes only by the caller whose compile for it has ended. -/
theorem Move.slot_state_eq (move : Move index cache call lock phase lock' phase' cache')
    (other : SlotId) (idle : ∀ outcome, phase ≠ .compiled other outcome) :
    (cache'.slot other).state = (cache.slot other).state := by
  cases move with
  | seek => simp
  | store | remember =>
      refine Cache.slot_write_state _ ?_
      intro same
      subst same
      exact idle _ rfl
  | publish => exact Cache.slot_publish_state cache _ other
  | drop => simp only [Cache.discard]; split <;> rfl
  | scan bound stepped =>
      obtain ⟨_, _, _, ⟨_, _, rfl⟩ | ⟨_, _, rfl⟩⟩ := Cache.scanStep_cases stepped <;> rfl
  | _ => rfl

theorem Move.listed (move : Move index cache call lock phase lock' phase' cache')
    (listed : cache.Listed) : cache'.Listed := by
  cases move with
  | seek => exact listed.slotFor _
  | find fetches found => exact listed.touch found
  | unlist found => exact listed.of_sublist (Cache.others_sublist cache _)
  | clear => exact listed.of_sublist (List.nil_sublist _)
  | store | remember | publish => exact listed.congr rfl (Cache.size_setSlot _ _ _)
  | drop =>
      simp only [Cache.discard]
      split
      · exact listed.of_sublist (Cache.others_sublist cache _)
      · exact listed
  | scan bound stepped =>
      obtain ⟨_, _, _, ⟨_, _, rfl⟩ | ⟨_, _, rfl⟩⟩ := Cache.scanStep_cases stepped
      · exact listed.of_sublist (List.eraseIdx_sublist _ _)
      · exact listed
  | _ => exact listed.congr rfl rfl

/-! ## The slot that is listed for a key -/

def Call.unlists (key : String) : Call L → Bool
  | .remove other => other = key
  | .clear => true
  | _ => false

/-- Why a slot leaves the list in a step of a caller. -/
inductive Unlisting (cache : Cache L) (key : String) (slot : SlotId) : Call L → Phase L → Prop where
  | asked {call : Call L} (unlists : call.unlists key = true) :
      Unlisting cache key slot call .listing
  | dropped : Unlisting cache key slot (.obtain key fingerprint outcome) (.dropping slot error)
  | evicted {call : Call L} (bound : cache.capacity = some capacity)
      (evictable : cache.isEvictable slot = true) :
      Unlisting cache key slot call (.scanning other result scan)

theorem Cache.unlist_find? (cache : Cache L) (key other : String) :
    (cache.unlist key).find? other = if other = key then none else cache.find? other :=
  Cache.lookup_others cache key other

theorem Cache.discard_find? (cache : Cache L) (key other : String) (slot : SlotId) :
    (cache.discard key slot).find? other =
      if other = key ∧ cache.find? key = some slot then none else cache.find? other := by
  unfold Cache.discard
  by_cases current : cache.find? key = some slot
  · simp [Cache.isCurrent, current, Cache.unlist_find?]
  · simp [Cache.isCurrent, current]

theorem Cache.Listed.find?_eraseIdx_self {key : String} {slot : SlotId} {place : Nat}
    (listed : cache.Listed) (here : cache.entries[place]? = some (key, slot)) :
    { cache with entries := cache.entries.eraseIdx place }.find? key = none := by
  rw [Cache.find?_eq_none_iff]
  intro entry member same
  subst same
  obtain ⟨other, different, there⟩ := List.mem_eraseIdx_iff_getElem?.mp member
  have within : place < (cache.entries.map Prod.fst).length := by
    simpa using (List.getElem?_eq_some_iff.mp here).1
  refine different ((List.getElem?_inj within listed.keys).mp ?_).symm
  simp [here, there]

theorem Cache.Listed.find?_eraseIdx_of_ne {key : String} {slot : SlotId} {place : Nat}
    (listed : cache.Listed) (found : cache.find? key = some slot)
    (elsewhere : cache.entries[place]? ≠ some (key, slot)) :
    { cache with entries := cache.entries.eraseIdx place }.find? key = some slot := by
  have shorter := listed.of_sublist (List.eraseIdx_sublist cache.entries place)
  refine shorter.find?_eq_some_iff.mpr (List.mem_eraseIdx_iff_getElem?.mpr ?_)
  obtain ⟨other, here⟩ := List.mem_iff_getElem?.mp (Cache.mem_of_find? found)
  refine ⟨other, ?_, here⟩
  intro same
  subst same
  exact elsewhere here

theorem Move.find?_of_some {key : String} {slot : SlotId}
    (move : Move index cache call lock phase lock' phase' cache') (listed : cache.Listed)
    (found : cache.find? key = some slot) :
    cache'.find? key = some slot ∨
      (cache'.find? key = none ∧ Unlisting cache key slot call phase) := by
  cases move with
  | @seek other =>
      left
      rw [Cache.slotFor_find?]
      split
      · next same => rw [← same, Cache.slotFor_of_some found]
      · exact found
  | find fetches listedSlot =>
      left
      rw [Cache.touch_find? listedSlot, found]
  | @unlist other =>
      rw [Cache.unlist_find?]
      split
      · next same => exact .inr ⟨rfl, .asked (by simp [Call.unlists, same])⟩
      · exact .inl found
  | clear => exact .inr ⟨rfl, .asked rfl⟩
  | drop =>
      rw [Cache.discard_find?]
      split
      · next here =>
          obtain ⟨rfl, current⟩ := here
          cases found.symm.trans current
          exact .inr ⟨rfl, .dropped⟩
      · exact .inl found
  | scan bound stepped =>
      obtain ⟨entry, here, _, ⟨evictable, _, rfl⟩ | ⟨_, _, rfl⟩⟩ := Cache.scanStep_cases stepped
      · by_cases same : entry = (key, slot)
        · subst entry
          exact .inr ⟨listed.find?_eraseIdx_self here, .evicted bound evictable⟩
        · left
          refine listed.find?_eraseIdx_of_ne found ?_
          rw [here]
          exact fun equal => same (Option.some.inj equal)
      · exact .inl found
  | _ => exact .inl found

theorem Move.find?_of_none {key : String}
    (move : Move index cache call lock phase lock' phase' cache') (listed : cache.Listed)
    (absent : cache.find? key = none) :
    cache'.find? key = none ∨
      ∃ fingerprint outcome, call = .obtain key fingerprint outcome ∧ phase = .listing ∧
        cache'.find? key = some cache.slots.size := by
  cases move with
  | @seek other fingerprint outcome =>
      rw [Cache.slotFor_find?]
      split
      · next same =>
          subst other
          exact .inr ⟨fingerprint, outcome, rfl, rfl, by rw [Cache.slotFor_of_none absent]⟩
      · exact .inl absent
  | find fetches listedSlot => exact .inl (by rw [Cache.touch_find? listedSlot, absent])
  | unlist => exact .inl (by rw [Cache.unlist_find?, absent, ite_self])
  | clear => exact .inl rfl
  | drop => exact .inl (by rw [Cache.discard_find?, absent, ite_self])
  | scan bound stepped =>
      obtain ⟨entry, here, _, ⟨_, _, rfl⟩ | ⟨_, _, rfl⟩⟩ := Cache.scanStep_cases stepped
      · left
        rw [Cache.find?_eq_none_iff] at absent ⊢
        exact fun other member => absent other ((List.eraseIdx_sublist _ _).subset member)
      · exact .inl absent
  | _ => exact .inl absent

end Templating
