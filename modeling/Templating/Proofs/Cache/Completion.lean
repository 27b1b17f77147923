import Mathlib.Algebra.GroupWithZero.Nat
import Mathlib.Algebra.Order.BigOperators.Group.List
import Mathlib.Algebra.Order.Group.Nat
import Mathlib.Data.Prod.Lex
import Mathlib.Order.WellFounded
import Templating.Proofs.Cache.Waiting

/-!
Every run ends with all calls answered.

A caller can start over, but only after its slot has left the list, and slots leave the list only
by what other callers do once: a removal, a discard, a scan.  So there are three amounts of work,
and each step lowers one of them without raising one before it: what the callers have left to do
once they are past the check of their slots, what is left of a scan, and what the callers have to do
before they are past that check.
-/

namespace Templating

variable {L : Type u}

def Phase.work : Phase L → Nat
  | .start | .listing | .queued _ | .holding _ | .checking _ | .outdated _ => 10
  | .reading _ => 9
  | .compiling _ => 8
  | .compiled _ _ => 7
  | .publishing _ _ | .discarding _ _ => 6
  | .dropping _ _ => 5
  | .settled _ _ => 4
  | .counting _ _ => 3
  | .scanning _ _ _ => 2
  | .leaving _ _ | .unlisted _ => 1
  | .done _ => 0

def Phase.unscanned (cache : Cache L) : Phase L → Nat
  | .scanning _ _ scan => cache.entries.length - scan.index
  | _ => 0

/-- How much longer the way to a check is for a caller that will have to start over after it. -/
def Call.detour (cache : Cache L) (slot : SlotId) : Call L → Nat
  | .obtain key _ _ => if cache.isCurrent key slot then 0 else 6
  | _ => 0

/-- What a caller has left to do until it is past the check of its slot. -/
def Caller.approach (cache : Cache L) (caller : Caller L) : Nat :=
  match caller.phase with
  | .checking slot => 1 + caller.call.detour cache slot
  | .holding slot => 2 + caller.call.detour cache slot
  | .queued slot => 3 + caller.call.detour cache slot
  | .listing => 4
  | .start => 5
  | .outdated _ => 6
  | _ => 0

variable {index : Nat} {cache cache' : Cache L} {call : Call L} {lock lock' : Option Nat}
  {phase phase' : Phase L}

/-- Each move lowers one of the three amounts for its caller, and none before it. -/
theorem Move.lowers (move : Move index cache call lock phase lock' phase' cache') :
    phase'.work < phase.work ∨
      (phase'.work = phase.work ∧ phase.hasList = true ∧
        phase'.unscanned cache' < phase.unscanned cache) ∨
      (phase'.work = phase.work ∧ phase'.unscanned cache' = 0 ∧
        (phase.hasList = true ∨ cache'.entries = cache.entries) ∧
        Caller.approach cache' ⟨call, phase'⟩ < Caller.approach cache ⟨call, phase⟩) := by
  cases move with
  | scan bound stepped => exact .inr (.inl ⟨rfl, rfl, Cache.scanStep_shorter stepped⟩)
  | seek =>
      refine .inr (.inr ⟨rfl, rfl, .inl rfl, ?_⟩)
      simp [Caller.approach, Call.detour, Cache.isCurrent, Cache.slotFor_find?]
  | find fetches found =>
      refine .inr (.inr ⟨rfl, rfl, .inl rfl, ?_⟩)
      cases fetches <;> simp [Caller.approach, Call.detour]
  | miss replaced =>
      exact .inr (.inr ⟨rfl, rfl, .inl rfl, by simp [Caller.approach, Call.detour, replaced]⟩)
  | acquire | confirm =>
      exact .inr (.inr ⟨rfl, rfl, .inr rfl, Nat.add_lt_add_right (by decide) _⟩)
  | enter | restart => exact .inr (.inr ⟨rfl, rfl, .inr rfl, by simp [Caller.approach]⟩)
  | _ => exact .inl (by simp [Phase.work])

theorem Move.find?_of_approach {key : String} {slot : SlotId}
    (move : Move index cache call lock phase lock' phase' cache') (listed : cache.Listed)
    (work : phase'.work = phase.work)
    (closer : Caller.approach cache' ⟨call, phase'⟩ < Caller.approach cache ⟨call, phase⟩)
    (found : cache.find? key = some slot) : cache'.find? key = some slot := by
  rcases move.find?_of_some listed found with kept | ⟨_, unlisting⟩
  · exact kept
  · cases unlisting with
    | asked unlists =>
        cases move with
        | seek => simp [Call.unlists] at unlists
        | find fetches => cases fetches <;> simp [Call.unlists] at unlists
        | unlist | clear | glance => simp [Phase.work] at work
    | dropped | evicted => exact (Nat.not_lt_zero _ closer).elim

theorem detour_le (call : Call L) (slot : SlotId)
    (kept : ∀ {key slot}, cache.find? key = some slot → cache'.find? key = some slot) :
    call.detour cache' slot ≤ call.detour cache slot := by
  cases call with
  | obtain key fingerprint outcome =>
      simp only [Call.detour]
      by_cases current : cache.isCurrent key slot = true
      · have still := Cache.isCurrent_iff.mpr (kept (Cache.isCurrent_iff.mp current))
        simp [current, still]
      · split <;> simp
  | _ => exact Nat.le_refl _

theorem approach_le (caller : Caller L)
    (kept : ∀ {key slot}, cache.find? key = some slot → cache'.find? key = some slot) :
    caller.approach cache' ≤ caller.approach cache := by
  obtain ⟨call, phase⟩ := caller
  cases phase with
  | queued slot | holding slot | checking slot =>
      exact Nat.add_le_add_left (detour_le call slot kept) _
  | _ => exact Nat.le_refl _

theorem sum_set_le {callers : List α} {index : Nat} {old new : α} {before after : α → Nat}
    (slack : Nat) (found : callers[index]? = some old) (moved : after new + slack ≤ before old)
    (others : ∀ other caller, other ≠ index → callers[other]? = some caller →
      after caller ≤ before caller) :
    ((callers.set index new).map after).sum + slack ≤ (callers.map before).sum := by
  induction callers generalizing index with
  | nil => simp at found
  | cons first rest ih =>
      cases index with
      | zero =>
          cases found
          have later : (rest.map after).sum ≤ (rest.map before).sum := by
            refine List.sum_le_sum fun caller member => ?_
            obtain ⟨other, there⟩ := List.mem_iff_getElem?.mp member
            exact others (other + 1) caller (by simp) (by simpa using there)
          simp only [List.set_cons_zero, List.map_cons, List.sum_cons]
          omega
      | succ index =>
          have later : ((rest.set index new).map after).sum + slack ≤ (rest.map before).sum :=
            ih (by simpa using found)
            fun other caller different there =>
              others (other + 1) caller (by simpa using different) (by simpa using there)
          have here : after first ≤ before first := others 0 first (by simp) rfl
          simp only [List.set_cons_succ, List.map_cons, List.sum_cons]
          omega

namespace Machine

def work (machine : Machine L) : Nat :=
  (machine.callers.map fun caller => caller.phase.work).sum

def unscanned (machine : Machine L) : Nat :=
  (machine.callers.map fun caller => caller.phase.unscanned machine.cache).sum

def approach (machine : Machine L) : Nat :=
  (machine.callers.map (Caller.approach machine.cache)).sum

/-- What the callers have left to do; the first amount counts most. -/
def remaining (machine : Machine L) : Nat ×ₗ Nat ×ₗ Nat :=
  toLex (machine.work, toLex (machine.unscanned, machine.approach))

theorem Exclusive.unscanned_eq_zero {machine : Machine L} (exclusive : machine.Exclusive)
    {caller scanner : Caller L} {other : Nat} (found : machine.callers[index]? = some scanner)
    (list : scanner.phase.hasList = true) (different : other ≠ index)
    (there : machine.callers[other]? = some caller) (cache : Cache L) :
    caller.phase.unscanned cache = 0 := by
  have lock := (exclusive.list index scanner found).mp list
  have unlocked : caller.phase.hasList ≠ true := by
    intro theirs
    cases lock.symm.trans ((exclusive.list other caller there).mp theirs)
    exact different rfl
  cases phase : caller.phase with
  | scanning => simp [phase, Phase.hasList] at unlocked
  | _ => rfl

theorem remaining_lt {before after : Machine L} (exclusive : before.Exclusive)
    (listed : before.cache.Listed) (stepped : before.step? index = some after) :
    after.remaining < before.remaining := by
  obtain ⟨call, phase, lock', phase', cache', found, move, rfl⟩ := step?_eq_some_iff.mp stepped
  rcases move.lowers with less | ⟨same, list, less⟩ | ⟨same, ended, still, less⟩
  · refine Prod.Lex.toLex_lt_toLex.mpr (.inl ?_)
    exact sum_set_le 1 found less fun _ _ _ _ => Nat.le_refl _
  · refine Prod.Lex.toLex_lt_toLex'.mpr ⟨?_, fun _ => Prod.Lex.toLex_lt_toLex.mpr (.inl ?_)⟩
    · exact sum_set_le 0 found (Nat.le_of_eq same) fun _ _ _ _ => Nat.le_refl _
    · refine sum_set_le 1 found less fun other caller different there => ?_
      -- The mover has the lock of the list, so that nobody else has a scan that could grow.
      rw [exclusive.unscanned_eq_zero found list different there]
      exact Nat.zero_le _
  · refine Prod.Lex.toLex_lt_toLex'.mpr ⟨?_, fun _ => Prod.Lex.toLex_lt_toLex'.mpr
      ⟨?_, fun _ => ?_⟩⟩
    · exact sum_set_le 0 found (Nat.le_of_eq same) fun _ _ _ _ => Nat.le_refl _
    · refine sum_set_le 0 found (by simp [ended]) fun other caller different there => ?_
      rcases still with list | entries
      · rw [exclusive.unscanned_eq_zero found list different there]
        exact Nat.zero_le _
      · simp only [Phase.unscanned, entries]
        exact Nat.le_refl _
    · refine sum_set_le 1 found less fun other caller _ _ => ?_
      exact approach_le caller (move.find?_of_approach listed same less)

/-- Every run comes to an end, and where a run cannot go on all calls are answered. -/
structure Completes (initial : Machine L) : Prop where
  ends : ∀ run : Nat → Machine L, run 0 = initial → ∃ time, ¬ (run time).Steps (run (time + 1))
  answered : ∀ machine, Reachable initial machine → (∀ after, ¬ machine.Steps after) →
    ∀ index < machine.callers.length, ∃ answer, machine.answer? index = some answer

theorem answer?_of_isDone {machine : Machine L} {caller : Caller L}
    (found : machine.callers[index]? = some caller) (done : caller.phase.isDone = true) :
    ∃ answer, machine.answer? index = some answer := by
  obtain ⟨call, phase⟩ := caller
  cases phase with
  | done answer => exact ⟨answer, by simp [answer?, found]⟩
  | _ => simp [Phase.isDone] at done

theorem Reachable.listed {initial machine : Machine L} (reachable : Reachable initial machine)
    (listed : initial.cache.Listed) : machine.cache.Listed :=
  reachable.preserves listed fun listed stepped => by
    obtain ⟨_, _, _, _, _, _, move, rfl⟩ := step?_eq_some_iff.mp stepped
    exact move.listed listed

theorem start_completes {cache : Cache L} (unused : cache.held = []) (listed : cache.Listed)
    (calls : List (Call L)) : (start cache calls).Completes where
  ends := by
    intro run begins
    by_contra! forever
    have reachable : ∀ time, Reachable (start cache calls) (run time) := by
      intro time
      induction time with
      | zero => exact begins ▸ .refl
      | succ time ih => exact .step ih (forever time)
    obtain ⟨time, stays⟩ := WellFounded.not_rel_apply_succ (r := (· < ·))
      fun time => (run time).remaining
    obtain ⟨index, stepped⟩ := forever time
    exact stays (remaining_lt ((reachable time).exclusive unused) ((reachable time).listed listed)
      stepped)
  answered := by
    intro machine reachable stuck index within
    have found := List.getElem?_eq_getElem within
    refine answer?_of_isDone found ?_
    by_contra unfinished
    obtain ⟨after, steps⟩ := (reachable.exclusive unused).progress
      ⟨_, List.getElem_mem within, by simpa using unfinished⟩
    exact stuck after steps

end Machine
end Templating
