import Mathlib.Logic.Relation
import Templating.Proofs.Cache.Locks

/-!
Who waits for whom.

A caller waits for the one that has the lock it wants.  Whoever has the lock of the list waits for
nobody, and whoever has the lock of a slot waits for the lock of the list at most, so each caller
ranks above the one it waits for.  There is no circle of waiting callers, and at the end of each
chain of them is one that can go on.
-/

namespace Templating

variable {L : Type u}

namespace Phase

variable {phase : Phase L} {capacity : Option Nat} {slot : SlotId}

/-- Whether the next step of a caller takes the lock of the list. -/
def wantsList (capacity : Option Nat) : Phase L → Bool
  | .start | .holding _ | .discarding _ _ => true
  | .settled _ _ => capacity.isSome
  | _ => false

/-- Locks are taken from the last to the first: none yet, that of a slot, that of the list. -/
def rank (phase : Phase L) : Nat :=
  if phase.hasList then 0 else if phase.holds?.isSome then 1 else 2

theorem rank_of_hasList (list : phase.hasList = true) : phase.rank = 0 := by
  simp [rank, list]

theorem rank_le_of_holds? (holds : phase.holds? = some slot) : phase.rank ≤ 1 := by
  unfold rank
  split <;> simp [holds]

theorem rank_pos_of_wantsList (wants : phase.wantsList capacity = true) : 0 < phase.rank := by
  cases phase <;> simp_all [wantsList, rank, hasList, holds?]

theorem isDone_of_hasList (list : phase.hasList = true) : phase.isDone = false := by
  cases phase <;> simp_all [hasList, isDone]

theorem isDone_of_holds? (holds : phase.holds? = some slot) : phase.isDone = false := by
  cases phase <;> simp_all [holds?, isDone]

end Phase

/-- A step takes only locks that nobody has. -/
theorem Move.free {index : Nat} {cache cache' : Cache L} {call : Call L}
    {lock lock' : Option Nat} {phase phase' : Phase L}
    (move : Move index cache call lock phase lock' phase' cache') :
    (phase.wantsList cache.capacity = true → lock = none) ∧
      (∀ slot, phase = .queued slot → slot ∉ cache.held) := by
  cases move with
  | acquire free | fetch free =>
      refine ⟨by simp [Phase.wantsList], ?_⟩
      rintro slot ⟨⟩
      simpa [Cache.isHeld] using free
  | unbounded boundless => simp [Phase.wantsList, boundless]
  | _ => simp [Phase.wantsList]

theorem Move.unfinished {index : Nat} {cache cache' : Cache L} {call : Call L}
    {lock lock' : Option Nat} {phase phase' : Phase L}
    (move : Move index cache call lock phase lock' phase' cache') : phase.isDone = false := by
  cases move <;> rfl

namespace Machine

variable {machine : Machine L} {caller : Caller L} {index holder : Nat}

def Unfinished (machine : Machine L) (index : Nat) : Prop :=
  ∃ caller, machine.callers[index]? = some caller ∧ caller.phase.isDone = false

def CanStep (machine : Machine L) (index : Nat) : Prop :=
  ∃ after, machine.step? index = some after

def rank (machine : Machine L) (index : Nat) : Nat :=
  machine.callers[index]?.elim 0 (·.phase.rank)

/-- A caller wants a lock that a caller has. -/
inductive Awaits (machine : Machine L) (index holder : Nat) : Prop where
  | list {caller : Caller L} (found : machine.callers[index]? = some caller)
      (wants : caller.phase.wantsList machine.cache.capacity = true)
      (locked : machine.listLock = some holder)
  | slot {call : Call L} {slot : SlotId}
      (found : machine.callers[index]? = some ⟨call, .queued slot⟩)
      (holds : machine.Holds holder slot)

theorem canStep_of_free (found : machine.callers[index]? = some caller)
    (proper : caller.phase.isOfObtain = true → caller.call.obtains = true)
    (unfinished : caller.phase.isDone = false)
    (list : caller.phase.wantsList machine.cache.capacity = true → machine.listLock = none)
    (slot : ∀ slot, caller.phase = .queued slot → machine.cache.isHeld slot = false) :
    machine.CanStep index := by
  obtain ⟨call, phase⟩ := caller
  simp only [CanStep, step?, found]
  cases phase with
  | done => simp [Phase.isDone] at unfinished
  | start | holding | discarding => simp [lockList, list rfl]
  | settled slot result =>
      cases bound : machine.cache.capacity with
      | none => simp
      | some capacity => simp [lockList, list (by simp [Phase.wantsList, bound])]
  | queued slot' => simp [slot slot' rfl]
  | checking | compiling | compiled | dropping =>
      cases call <;> simp_all [Phase.isOfObtain, Call.obtains]
  | scanning slot result scan =>
      simp only
      split <;> exact ⟨_, rfl⟩
  | _ => simp

theorem CanStep.unfinished (can : machine.CanStep index) : machine.Unfinished index := by
  obtain ⟨after, stepped⟩ := can
  obtain ⟨call, phase, lock, nextPhase, cache, found, move, _⟩ := step?_eq_some_iff.mp stepped
  exact ⟨_, found, move.unfinished⟩

namespace Exclusive

theorem hasList_of_listLock (exclusive : machine.Exclusive) (locked : machine.listLock = some index) :
    ∃ caller, machine.callers[index]? = some caller ∧ caller.phase.hasList = true := by
  have found := List.getElem?_eq_getElem (exclusive.locker index locked)
  exact ⟨_, found, (exclusive.list index _ found).mpr locked⟩

/-- No caller waits for a slot while it has the lock of the list. -/
theorem not_queued (exclusive : machine.Exclusive) (locked : machine.listLock = some index)
    (found : machine.callers[index]? = some caller) (slot : SlotId) :
    caller.phase ≠ .queued slot := by
  intro queued
  have list := (exclusive.list index caller found).mpr locked
  simp [queued, Phase.hasList] at list

theorem rank_lt_of_awaits (exclusive : machine.Exclusive) (awaits : machine.Awaits index holder) :
    machine.rank holder < machine.rank index := by
  cases awaits with
  | list found wants locked =>
      obtain ⟨locker, there, list⟩ := exclusive.hasList_of_listLock locked
      have pos := Phase.rank_pos_of_wantsList wants
      simpa [rank, found, there, Phase.rank_of_hasList list] using pos
  | slot found holds =>
      obtain ⟨other, there, holds⟩ := holds
      have low := Phase.rank_le_of_holds? holds
      have high : machine.rank index = 2 := by
        simp [rank, found, Phase.rank, Phase.hasList, Phase.holds?]
      rw [high]
      simpa [rank, there] using Nat.lt_succ_of_le low

theorem unfinished_of_awaited (exclusive : machine.Exclusive)
    (awaits : machine.Awaits index holder) : machine.Unfinished holder := by
  cases awaits with
  | list _ _ locked =>
      obtain ⟨locker, there, list⟩ := exclusive.hasList_of_listLock locked
      exact ⟨locker, there, Phase.isDone_of_hasList list⟩
  | slot _ holds =>
      obtain ⟨other, there, holds⟩ := holds
      exact ⟨other, there, Phase.isDone_of_holds? holds⟩

/-- To be without a step is to wait for a caller. -/
theorem canStep_iff (exclusive : machine.Exclusive) :
    machine.CanStep index ↔
      machine.Unfinished index ∧ ∀ holder, ¬ machine.Awaits index holder := by
  constructor
  · intro can
    refine ⟨can.unfinished, fun holder awaits => ?_⟩
    obtain ⟨after, stepped⟩ := can
    obtain ⟨call, phase, lock, nextPhase, cache, found, move, _⟩ := step?_eq_some_iff.mp stepped
    obtain ⟨list, slots⟩ := move.free
    cases awaits with
    | list found' wants locked =>
        cases found.symm.trans found'
        simp [list wants] at locked
    | slot found' holds =>
        cases found.symm.trans found'
        exact slots _ rfl ((exclusive.held _).mpr ⟨holder, holds⟩)
  · intro given
    obtain ⟨⟨caller, found, unfinished⟩, content⟩ := given
    have proper := exclusive.proper caller (List.mem_of_getElem? found)
    refine canStep_of_free found proper unfinished ?_ ?_
    · intro wants
      cases lock : machine.listLock with
      | none => rfl
      | some holder => exact (content holder (.list found wants lock)).elim
    · intro slot queued
      by_contra taken
      obtain ⟨holder, holds⟩ := (exclusive.held slot).mp (by simpa [Cache.isHeld] using taken)
      obtain ⟨call, phase⟩ := caller
      cases queued
      exact content holder (.slot found holds)

/-- At the end of each chain of waiting callers is one that can go on. -/
theorem exists_canStep (exclusive : machine.Exclusive) (unfinished : machine.Unfinished index) :
    ∃ last, Relation.ReflTransGen machine.Awaits index last ∧ machine.CanStep last := by
  -- By induction on the rank, which each awaited caller lowers.
  induction rank : machine.rank index using Nat.strongRecOn generalizing index with
  | _ bound ih =>
      by_cases waits : ∃ holder, machine.Awaits index holder
      · obtain ⟨holder, awaits⟩ := waits
        have lower := exclusive.rank_lt_of_awaits awaits
        obtain ⟨last, chain, can⟩ :=
          ih _ (rank ▸ lower) (exclusive.unfinished_of_awaited awaits) rfl
        exact ⟨last, .head awaits chain, can⟩
      · exact ⟨index, .refl, exclusive.canStep_iff.mpr ⟨unfinished, not_exists.mp waits⟩⟩

theorem rank_lt_of_chain (exclusive : machine.Exclusive)
    (chain : Relation.TransGen machine.Awaits index holder) :
    machine.rank holder < machine.rank index := by
  induction chain with
  | single awaits => exact exclusive.rank_lt_of_awaits awaits
  | tail _ awaits ih => exact Nat.lt_trans (exclusive.rank_lt_of_awaits awaits) ih

/-- While a caller is not done, some caller has a step. -/
theorem progress (exclusive : machine.Exclusive)
    (unfinished : ∃ caller ∈ machine.callers, caller.phase.isDone = false) :
    ∃ after, machine.Steps after := by
  obtain ⟨caller, member, unfinished⟩ := unfinished
  obtain ⟨index, found⟩ := List.mem_iff_getElem?.mp member
  obtain ⟨last, _, after, stepped⟩ := exclusive.exists_canStep ⟨caller, found, unfinished⟩
  exact ⟨after, last, stepped⟩

end Exclusive

/-- Calls never block each other for good: while one is unfinished some call has a step, whoever has
the lock of the list does not wait for a slot and can go on, a call is without a step only while it
waits for another, and the calls do not wait in a circle, but for one that can go on. -/
theorem calls_never_deadlock {cache : Cache L} (unused : cache.held = []) (calls : List (Call L))
    (reachable : Reachable (start cache calls) machine) :
    ((∃ caller ∈ machine.callers, caller.phase.isDone = false) → ∃ after, machine.Steps after) ∧
    (∀ index, machine.listLock = some index → machine.CanStep index ∧
      ∀ caller slot, machine.callers[index]? = some caller → caller.phase ≠ .queued slot) ∧
    (∀ index, machine.CanStep index ↔
      machine.Unfinished index ∧ ∀ holder, ¬ machine.Awaits index holder) ∧
    (∀ index, machine.Unfinished index →
      ∃ last, Relation.ReflTransGen machine.Awaits index last ∧ machine.CanStep last) ∧
    (∀ index, ¬ Relation.TransGen machine.Awaits index index) := by
  have exclusive := reachable.exclusive unused
  refine ⟨exclusive.progress, fun index locked => ⟨?_, ?_⟩, fun _ => exclusive.canStep_iff,
    fun _ => exclusive.exists_canStep, ?_⟩
  · obtain ⟨locker, found, list⟩ := exclusive.hasList_of_listLock locked
    refine exclusive.canStep_iff.mpr ⟨⟨locker, found, Phase.isDone_of_hasList list⟩, ?_⟩
    intro holder awaits
    -- The rank of the one that has the list is the least.
    have lower := exclusive.rank_lt_of_awaits awaits
    simp [rank, found, Phase.rank_of_hasList list] at lower
  · exact fun caller slot found => exclusive.not_queued locked found slot
  · intro index chain
    exact Nat.lt_irrefl _ (exclusive.rank_lt_of_chain chain)

/-- One call compiles a page, one waits for its slot, one has the list and one waits for the list. -/
def crowded : List (Call Nat) :=
  let fingerprint : Fingerprint := ⟨Sha256.initial⟩
  let compiled : Except TemplateError (Artifact Nat) :=
    .ok ⟨"page", fingerprint, .dynamic, none, "source", 1⟩
  [.obtain "page" fingerprint compiled, .get "page", .clear, .keys]

def crowdedHalfway : Machine Nat :=
  (start (.create (some 1) .retry) crowded).runSchedule [0, 0, 0, 0, 0, 0, 1, 1, 2]

theorem crowded_never_deadlock :
    Reachable (start (.create (some 1) .retry) crowded) crowdedHalfway ∧
      crowdedHalfway.Awaits 1 0 ∧ crowdedHalfway.Awaits 3 2 ∧ crowdedHalfway.CanStep 2 ∧
      ¬ crowdedHalfway.CanStep 1 ∧ (∃ after, crowdedHalfway.Steps after) ∧
      ∃ last, Relation.ReflTransGen crowdedHalfway.Awaits 1 last ∧ crowdedHalfway.CanStep last := by
  have reachable : Reachable (start (.create (some 1) .retry) crowded) crowdedHalfway :=
    Reachable.refl.runSchedule _
  obtain ⟨progress, locker, able, chained, _⟩ := calls_never_deadlock rfl crowded reachable
  have queued : crowdedHalfway.callers[1]? = some ⟨.get "page", .queued 0⟩ := by rfl
  have waiting : crowdedHalfway.callers[3]? = some ⟨.keys, .start⟩ := by rfl
  have locked : crowdedHalfway.listLock = some 2 := by rfl
  have compiling : crowdedHalfway.Holds 0 0 := ⟨_, by rfl, by rfl⟩
  have awaits : crowdedHalfway.Awaits 1 0 := .slot queued compiling
  refine ⟨reachable, awaits, .list waiting rfl locked, (locker 2 locked).1, ?_, ?_, ?_⟩
  · exact fun can => ((able 1).mp can).2 0 awaits
  · exact progress ⟨_, List.mem_of_getElem? queued, rfl⟩
  · exact chained 1 ⟨_, queued, rfl⟩

end Machine
end Templating
