import Templating.Proofs.Cache.Move

/-!
Who has which lock.

`Exclusive` ties the locks that the machine records to the points that the callers have reached:
the lock of the list and the lock of each slot have one holder at most, and the phase of a caller
tells which locks it has.
-/

namespace Templating

variable {L : Type u}

namespace Phase

def hasList : Phase L → Bool
  | .listing | .checking _ | .dropping _ _ | .counting _ _ | .scanning _ _ _ => true
  | _ => false

/-- The slot whose lock a caller has that has reached the point. -/
def holds? : Phase L → Option SlotId
  | .holding slot | .checking slot | .outdated slot | .reading slot | .compiling slot
  | .compiled slot _ | .publishing slot _ | .discarding slot _ | .dropping slot _
  | .settled slot _ | .counting slot _ | .scanning slot _ _ | .leaving slot _ => some slot
  | .start | .listing | .queued _ | .unlisted _ | .done _ => none

def isOfObtain : Phase L → Bool
  | .holding _ | .checking _ | .outdated _ | .compiling _ | .compiled _ _ | .publishing _ _
  | .discarding _ _ | .dropping _ _ | .settled _ _ | .counting _ _ | .scanning _ _ _ => true
  | _ => false

def isDone : Phase L → Bool
  | .done _ => true
  | _ => false

end Phase

variable {index : Nat} {cache cache' : Cache L} {call : Call L} {lock lock' : Option Nat}
  {phase phase' : Phase L}

/-- A move keeps the lock of the list as it is, takes it while it is free, or lets go of it. -/
theorem Move.list_lock (move : Move index cache call lock phase lock' phase' cache') :
    (lock' = lock ∧ phase'.hasList = phase.hasList) ∨
      (lock = none ∧ lock' = some index ∧ phase.hasList = false ∧ phase'.hasList = true) ∨
      (lock' = none ∧ phase.hasList = true ∧ phase'.hasList = false) := by
  cases move <;> simp [Phase.hasList]

/-- A move keeps the slot that the caller holds, takes a free one, or lets go of it. -/
theorem Move.slot_lock (move : Move index cache call lock phase lock' phase' cache') :
    (cache'.held = cache.held ∧ phase'.holds? = phase.holds?) ∨
      (∃ slot, slot ∉ cache.held ∧ cache'.held = slot :: cache.held ∧ phase.holds? = none ∧
        phase'.holds? = some slot) ∨
      (∃ slot, cache'.held = cache.held.erase slot ∧ phase.holds? = some slot ∧
        phase'.holds? = none) := by
  cases move with
  | acquire free | fetch free =>
      exact .inr (.inl ⟨_, by simpa [Cache.isHeld] using free, rfl, rfl, rfl⟩)
  | restart | leave => exact .inr (.inr ⟨_, rfl, rfl, rfl⟩)
  | seek => exact .inl ⟨Cache.slotFor_held cache _, rfl⟩
  | drop =>
      refine .inl ⟨?_, rfl⟩
      simp only [Cache.discard]
      split <;> rfl
  | scan bound stepped =>
      refine .inl ⟨?_, rfl⟩
      obtain ⟨_, _, _, ⟨_, _, rfl⟩ | ⟨_, _, rfl⟩⟩ := Cache.scanStep_cases stepped <;> rfl
  | _ => exact .inl ⟨rfl, rfl⟩

theorem Move.isOfObtain (move : Move index cache call lock phase lock' phase' cache')
    (proper : phase.isOfObtain = true → call.obtains = true) :
    phase'.isOfObtain = true → call.obtains = true := by
  cases move <;> simp_all [Phase.isOfObtain, Call.obtains]

namespace Machine

/-- Whether a caller has the lock of a slot. -/
def Holds (machine : Machine L) (index : Nat) (slot : SlotId) : Prop :=
  ∃ caller, machine.callers[index]? = some caller ∧ caller.phase.holds? = some slot

structure Exclusive (machine : Machine L) : Prop where
  /-- The phase of a caller tells whether it has the lock of the list. -/
  list : ∀ index caller, machine.callers[index]? = some caller →
    (caller.phase.hasList = true ↔ machine.listLock = some index)
  /-- Only a caller has the lock of the list. -/
  locker : ∀ index, machine.listLock = some index → index < machine.callers.length
  held : ∀ slot, slot ∈ machine.cache.held ↔ ∃ index, machine.Holds index slot
  single : ∀ first second slot, machine.Holds first slot → machine.Holds second slot →
    first = second
  nodup : machine.cache.held.Nodup
  proper : ∀ caller ∈ machine.callers,
    caller.phase.isOfObtain = true → caller.call.obtains = true

theorem start_exclusive {cache : Cache L} (unused : cache.held = []) (calls : List (Call L)) :
    (start cache calls).Exclusive := by
  have fresh : ∀ caller ∈ (start cache calls).callers, caller.phase = .start := by
    simp [start]
  have unheld : ∀ index slot, ¬ (start cache calls).Holds index slot := by
    intro index slot given
    obtain ⟨caller, found, holds⟩ := given
    rw [fresh caller (List.mem_of_getElem? found)] at holds
    contradiction
  refine ⟨?_, ?_, ?_, ?_, ?_, ?_⟩
  · intro index caller found
    rw [fresh caller (List.mem_of_getElem? found)]
    simp [start, Phase.hasList]
  · simp [start]
  · intro slot
    rw [show (start cache calls).cache.held = [] from unused]
    simpa using fun index => unheld index slot
  · exact fun first _ slot holds => (unheld first slot holds).elim
  · rw [show (start cache calls).cache.held = [] from unused]
    exact List.nodup_nil
  · intro caller member
    rw [fresh caller member]
    simp [Phase.isOfObtain]

section Step

variable {callers : List (Caller L)} {other : Nat} {slot : SlotId}

theorem holds_mover (found : callers[index]? = some ⟨call, phase⟩) :
    Holds ⟨cache, callers, lock⟩ index slot ↔ phase.holds? = some slot := by
  simp [Holds, found]

theorem holds_moved (found : callers[index]? = some ⟨call, phase⟩) :
    Holds ⟨cache', callers.set index ⟨call, phase'⟩, lock'⟩ index slot ↔
      phase'.holds? = some slot := by
  simp [Holds, (List.getElem?_eq_some_iff.mp found).1]

theorem holds_unmoved (cache : Cache L) (lock : Option Nat) (different : other ≠ index) :
    Holds ⟨cache', callers.set index ⟨call, phase'⟩, lock'⟩ other slot ↔
      Holds ⟨cache, callers, lock⟩ other slot := by
  simp [Holds, List.getElem?_set_ne (Ne.symm different)]

theorem Exclusive.alone (exclusive : Exclusive ⟨cache, callers, lock⟩)
    (found : callers[index]? = some ⟨call, phase⟩)
    (move : Move index cache call lock phase lock' phase' cache') (different : other ≠ index)
    (holds : phase'.holds? = some slot) : ¬ Holds ⟨cache, callers, lock⟩ other slot := by
  intro theirs
  rcases move.slot_lock with ⟨_, same⟩ | ⟨taken, free, _, _, holds'⟩ | ⟨_, _, _, left⟩
  · exact different (exclusive.single _ _ _ theirs ((holds_mover found).mpr (same ▸ holds)))
  · cases holds.symm.trans holds'
    exact free ((exclusive.held _).mpr ⟨other, theirs⟩)
  · cases holds.symm.trans left

theorem Exclusive.list_of_move (exclusive : Exclusive ⟨cache, callers, lock⟩)
    (found : callers[index]? = some ⟨call, phase⟩)
    (move : Move index cache call lock phase lock' phase' cache') {caller : Caller L}
    (there : (callers.set index ⟨call, phase'⟩)[other]? = some caller) :
    caller.phase.hasList = true ↔ lock' = some other := by
  have mover := exclusive.list index _ found
  by_cases same : other = index
  · subst other
    have within := (List.getElem?_eq_some_iff.mp found).1
    obtain rfl : ⟨call, phase'⟩ = caller := by simpa [within] using there
    rcases move.list_lock with ⟨rfl, kept⟩ | ⟨_, rfl, _, taken⟩ | ⟨rfl, _, left⟩
    · simpa [kept] using mover
    · simp [taken]
    · simp [left]
  · rw [List.getElem?_set_ne (Ne.symm same)] at there
    have theirs := exclusive.list other caller there
    rcases move.list_lock with ⟨rfl, _⟩ | ⟨rfl, rfl, _, _⟩ | ⟨rfl, had, _⟩
    · exact theirs
    · simpa [Ne.symm same] using theirs
    · have mine : lock = some index := mover.mp had
      rw [theirs]
      simp [mine, Ne.symm same]

theorem Exclusive.held_of_move (exclusive : Exclusive ⟨cache, callers, lock⟩)
    (found : callers[index]? = some ⟨call, phase⟩)
    (move : Move index cache call lock phase lock' phase' cache') :
    slot ∈ cache'.held ↔
      ∃ other, Holds ⟨cache', callers.set index ⟨call, phase'⟩, lock'⟩ other slot := by
  have before := exclusive.held slot
  simp only at before
  rcases move.slot_lock with ⟨same, kept⟩ | ⟨taken, _, grown, old, new⟩ | ⟨left, shrunk, old, new⟩
  · rw [same, before]
    refine exists_congr fun other => ?_
    by_cases here : other = index
    · subst other
      rw [holds_moved found, holds_mover found, kept]
    · exact (holds_unmoved cache lock here).symm
  · rw [grown, List.mem_cons, before]
    constructor
    · intro given
      rcases given with rfl | ⟨other, theirs⟩
      · exact ⟨index, (holds_moved found).mpr new⟩
      · refine ⟨other, (holds_unmoved cache lock ?_).mpr theirs⟩
        intro same
        subst same
        cases ((holds_mover found).mp theirs).symm.trans old
    · intro given
      obtain ⟨other, theirs⟩ := given
      by_cases here : other = index
      · subst other
        exact .inl (Option.some.inj (((holds_moved found).mp theirs).symm.trans new))
      · exact .inr ⟨other, (holds_unmoved cache lock here).mp theirs⟩
  · rw [shrunk, exclusive.nodup.mem_erase_iff, before]
    constructor
    · intro given
      obtain ⟨different, other, theirs⟩ := given
      refine ⟨other, (holds_unmoved cache lock ?_).mpr theirs⟩
      intro same
      subst same
      exact different (Option.some.inj (((holds_mover found).mp theirs).symm.trans old))
    · intro given
      obtain ⟨other, theirs⟩ := given
      have here : other ≠ index := by
        intro same
        subst same
        cases ((holds_moved found).mp theirs).symm.trans new
      have theirs := (holds_unmoved cache lock here).mp theirs
      refine ⟨?_, other, theirs⟩
      intro same
      subst same
      exact here (exclusive.single _ _ _ theirs ((holds_mover found).mpr old))

theorem Exclusive.single_of_move (exclusive : Exclusive ⟨cache, callers, lock⟩)
    (found : callers[index]? = some ⟨call, phase⟩)
    (move : Move index cache call lock phase lock' phase' cache') {first second : Nat}
    (holds : Holds ⟨cache', callers.set index ⟨call, phase'⟩, lock'⟩ first slot)
    (holds' : Holds ⟨cache', callers.set index ⟨call, phase'⟩, lock'⟩ second slot) :
    first = second := by
  by_cases here : first = index <;> by_cases there : second = index
  · rw [here, there]
  · subst first
    exact (exclusive.alone found move there ((holds_moved found).mp holds)
      ((holds_unmoved cache lock there).mp holds')).elim
  · subst second
    exact (exclusive.alone found move here ((holds_moved found).mp holds')
      ((holds_unmoved cache lock here).mp holds)).elim
  · exact exclusive.single _ _ _ ((holds_unmoved cache lock here).mp holds)
      ((holds_unmoved cache lock there).mp holds')

theorem Exclusive.nodup_of_move (exclusive : Exclusive ⟨cache, callers, lock⟩)
    (move : Move index cache call lock phase lock' phase' cache') : cache'.held.Nodup := by
  have before := exclusive.nodup
  rcases move.slot_lock with ⟨same, _⟩ | ⟨_, free, grown, _, _⟩ | ⟨left, shrunk, _, _⟩
  · rw [same]
    exact before
  · rw [grown]
    exact before.cons free
  · rw [shrunk]
    exact before.erase left

end Step

theorem Exclusive.step {before after : Machine L} {index : Nat} (exclusive : before.Exclusive)
    (stepped : before.step? index = some after) : after.Exclusive := by
  obtain ⟨call, phase, lock', phase', cache', found, move, rfl⟩ := step?_eq_some_iff.mp stepped
  exact
    { list := fun _ _ there => exclusive.list_of_move found move there
      locker := by
        intro other locks
        rw [List.length_set]
        rcases move.list_lock with ⟨rfl, _⟩ | ⟨_, rfl, _, _⟩ | ⟨rfl, _, _⟩
        · exact exclusive.locker other locks
        · cases locks
          exact (List.getElem?_eq_some_iff.mp found).1
        · contradiction
      held := fun _ => exclusive.held_of_move found move
      single := fun _ _ _ => exclusive.single_of_move found move
      nodup := exclusive.nodup_of_move move
      proper := forall_mem_set exclusive.proper
        (move.isOfObtain (exclusive.proper _ (List.mem_of_getElem? found))) }

theorem Reachable.exclusive {cache : Cache L} {calls : List (Call L)} {machine : Machine L}
    (reachable : Reachable (start cache calls) machine) (unused : cache.held = []) :
    machine.Exclusive :=
  reachable.preserves (start_exclusive unused calls) Exclusive.step

end Machine
end Templating
