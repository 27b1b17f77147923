import Templating.Proofs.Cache.Completion
import Templating.Proofs.Cache.Runs

/-!
Calls that are about to fill their slot.

A call is in flight from the moment at which it finds its slot listed until the slot is settled.  It
has the lock of the slot all the while, and so the slot can leave the list only by a call that asks
for it.  Two calls for one key can be in flight at once only if the slot of the first has been taken
off the list before the second found its own.  That may have happened before the first began to compile.
-/

namespace Templating

variable {L : Type u}

/-- The slot that a caller is about to answer from or to fill. -/
def Phase.inFlight? : Phase L → Option SlotId
  | .reading slot | .compiling slot | .compiled slot _ | .publishing slot _ | .discarding slot _
  | .dropping slot _ => some slot
  | _ => none

theorem Phase.holds?_of_inFlight? {phase : Phase L} {slot : SlotId}
    (flies : phase.inFlight? = some slot) : phase.holds? = some slot := by
  cases phase <;> simp_all [Phase.inFlight?, Phase.holds?]

theorem Move.inFlight {index : Nat} {cache cache' : Cache L} {key : String}
    {fingerprint : Fingerprint} {outcome : Except TemplateError (Artifact L)}
    {lock lock' : Option Nat} {phase phase' : Phase L} {slot : SlotId}
    (move : Move index cache (.obtain key fingerprint outcome) lock phase lock' phase' cache')
    (flies : phase'.inFlight? = some slot) :
    phase.inFlight? = some slot ∨ (phase = .checking slot ∧ cache.isCurrent key slot = true) := by
  cases move with
  | fetch free plain => contradiction
  | pass current =>
      cases flies
      exact .inr ⟨rfl, current⟩
  | _ => simp_all [Phase.inFlight?]

theorem Move.of_dropping {index : Nat} {cache cache' : Cache L} {call : Call L}
    {lock lock' : Option Nat} {phase' : Phase L} {slot : SlotId} {error : TemplateError}
    (move : Move index cache call lock (.dropping slot error) lock' phase' cache') :
    phase' = .settled slot (.error error) := by
  cases move
  rfl

namespace Machine

/-- A call for the key has found the slot listed, and has not settled it yet. -/
def InFlight (machine : Machine L) (key : String) (index : Nat) (slot : SlotId) : Prop :=
  ∃ fingerprint outcome phase,
    machine.callers[index]? = some ⟨.obtain key fingerprint outcome, phase⟩ ∧
      phase.inFlight? = some slot

theorem InFlight.holds {machine : Machine L} {key : String} {index : Nat} {slot : SlotId}
    (flies : machine.InFlight key index slot) : machine.Holds index slot := by
  obtain ⟨fingerprint, outcome, phase, found, flies⟩ := flies
  exact ⟨_, found, Phase.holds?_of_inFlight? flies⟩

theorem inFlight_of_compiling? {machine : Machine L} {key : String} {index : Nat}
    (compiles : (machine.compiling? key index).isSome) : ∃ slot, machine.InFlight key index slot := by
  obtain ⟨outcome, compiles⟩ := Option.isSome_iff_exists.mp compiles
  obtain ⟨fingerprint, slot, found⟩ := compiling?_eq_some_iff.mp compiles
  exact ⟨slot, fingerprint, outcome, _, found, rfl⟩

end Machine

namespace Moment

def Passes (key : String) (index : Nat) (slot : SlotId) (moment : Moment L) : Prop :=
  moment.mover = index ∧ moment.machine.cache.find? key = some slot ∧
    ∃ fingerprint outcome,
      moment.machine.callers[index]? = some ⟨.obtain key fingerprint outcome, .checking slot⟩

/-- A call that removes the key, or all keys, takes effect. -/
def Unlists (key : String) (moment : Moment L) : Prop :=
  ∃ call, moment.machine.callers[moment.mover]? = some ⟨call, .listing⟩ ∧ call.unlists key = true

theorem Passes.holds {key : String} {index : Nat} {slot : SlotId} {moment : Moment L}
    (passes : moment.Passes key index slot) : moment.machine.Holds index slot := by
  obtain ⟨_, _, fingerprint, outcome, found⟩ := passes
  exact ⟨_, found, rfl⟩

end Moment

namespace Machine

variable {initial before after machine : Machine L} {past : List (Moment L)} {key : String}
  {index mover : Nat} {slot : SlotId}

theorem InFlight.of_step (stepped : before.step? mover = some after)
    (flies : after.InFlight key index slot) :
    before.InFlight key index slot ∨ Moment.Passes key index slot ⟨mover, before⟩ := by
  obtain ⟨fingerprint, outcome, reached, there, flies⟩ := flies
  rcases caller_of_step? stepped there with ⟨_, found⟩ | ⟨rfl, phase, found, move⟩
  · exact .inl ⟨fingerprint, outcome, reached, found, flies⟩
  · rcases move.inFlight flies with flew | ⟨rfl, current⟩
    · exact .inl ⟨fingerprint, outcome, phase, found, flew⟩
    · exact .inr ⟨rfl, Cache.isCurrent_iff.mp current, fingerprint, outcome, found⟩

/-- A slot that a caller is about to fill leaves the list only by a removal. -/
theorem idle_of_unlisting {call : Call L} {phase : Phase L} (exclusive : before.Exclusive)
    (unlisting : Unlisting before.cache key slot call phase)
    (moves : before.callers[mover]? = some ⟨call, phase⟩)
    (stays : ¬ (Moment.Unlists key ⟨mover, before⟩ ∧ ∃ writer, before.InFlight key writer slot))
    (stepped : before.step? mover = some after) (writer : Nat) :
    ¬ after.InFlight key writer slot := by
  intro flies
  have flew : before.InFlight key writer slot := by
    rcases flies.of_step stepped with flew | ⟨rfl, _, _, _, checks⟩
    · exact flew
    · cases moves.symm.trans checks
      cases unlisting
  cases unlisting with
  | asked unlists => exact stays ⟨⟨call, moves, unlists⟩, writer, flew⟩
  | dropped =>
      -- Only the holder of a slot drops it, and then it is in flight no more.
      obtain rfl : writer = mover := exclusive.single _ _ _ flew.holds ⟨_, moves, rfl⟩
      obtain ⟨call, phase, lock', phase', cache', found, move, rfl⟩ := step?_eq_some_iff.mp stepped
      cases moves.symm.trans found
      obtain ⟨_, _, phase, moved, flies⟩ := flies
      rw [List.getElem?_set_self (List.getElem?_eq_some_iff.mp moves).1, move.of_dropping] at moved
      cases moved
      contradiction
  | evicted bound evictable =>
      have free : slot ∉ before.cache.held := by
        simpa [Cache.isEvictable, Cache.isHeld] using (Bool.and_eq_true_iff.mp evictable).2
      exact free ((exclusive.held slot).mpr ⟨writer, flew.holds⟩)

theorem InFlight.listed_step (exclusive : before.Exclusive) (listed : before.cache.Listed)
    (stepped : before.step? mover = some after) (still : after.InFlight key index slot)
    (stays : ¬ Moment.Unlists key ⟨mover, before⟩) (found : before.cache.find? key = some slot) :
    after.cache.find? key = some slot := by
  obtain ⟨call, phase, lock', phase', cache', moves, move, same⟩ := step?_eq_some_iff.mp stepped
  rcases move.find?_of_some listed found with kept | ⟨_, unlisting⟩
  · rw [same]
    exact kept
  · exact (idle_of_unlisting exclusive unlisting moves (fun taken => stays taken.1) stepped index
      still).elim

theorem concat_eq_append_cons {front back whole : List α} {entry last : α}
    (split : whole ++ [last] = front ++ entry :: back) :
    (back = [] ∧ whole = front ∧ last = entry) ∨
      ∃ rest, back = rest ++ [last] ∧ whole = front ++ entry :: rest := by
  rcases List.eq_nil_or_concat back with rfl | ⟨rest, final, rfl⟩
  · obtain ⟨same, single⟩ := List.append_inj' split rfl
    exact .inl ⟨rfl, same, List.singleton_inj.mp single⟩
  · simp only [List.concat_eq_append, ← List.cons_append, ← List.append_assoc] at split ⊢
    obtain ⟨same, single⟩ := List.append_inj' split rfl
    exact .inr ⟨rest, by rw [List.singleton_inj.mp single], same⟩

theorem listed_of_passes (listed : before.cache.Listed) (stepped : before.step? mover = some after)
    (passes : Moment.Passes key index slot ⟨mover, before⟩) : after.cache.find? key = some slot := by
  obtain ⟨rfl, found, fingerprint, outcome, checks⟩ := passes
  obtain ⟨call, phase, lock', phase', cache', moves, move, rfl⟩ := step?_eq_some_iff.mp stepped
  cases checks.symm.trans moves
  rcases move.find?_of_some listed found with kept | ⟨_, unlisting⟩
  · exact kept
  · cases unlisting

theorem Run.cut {front back : List (Moment L)} {moment : Moment L} (run : Run initial past machine)
    (split : past = front ++ moment :: back) : Run initial front moment.machine := by
  induction run generalizing back with
  | start => simp at split
  | step run stepped ih =>
      rcases concat_eq_append_cons split with ⟨rfl, rfl, rfl⟩ | ⟨rest, rfl, earlier⟩
      · exact run
      · exact ih earlier

/-- A caller has found the slot listed, and has been in flight since. -/
structure Flight (key : String) (index : Nat) (slot : SlotId) (pass : Moment L)
    (since : List (Moment L)) : Prop where
  passes : pass.Passes key index slot
  flies : ∀ moment ∈ since, moment.machine.InFlight key index slot

section Runs

variable {cache : Cache L} {calls : List (Call L)} {front since : List (Moment L)} {pass : Moment L}

theorem Run.flight (run : Run (.start cache calls) past machine)
    (flies : machine.InFlight key index slot) :
    ∃ front pass since, past = front ++ pass :: since ∧ Flight key index slot pass since := by
  have grounded : ¬ (Machine.start cache calls).InFlight key index slot := by
    intro flies
    obtain ⟨_, _, phase, found, flies⟩ := flies
    cases start_phase found
    cases flies
  obtain ⟨front, pass, since, split, passes, flies⟩ :=
    run.since (fun machine => machine.InFlight key index slot) (Moment.Passes key index slot) grounded
      (fun _ stepped => InFlight.of_step stepped) flies
  exact ⟨front, pass, since, split, passes, flies⟩

theorem Flight.listed (flight : Flight key index slot pass since)
    (run : Run (.start cache calls) past machine) (unused : cache.held = []) (listed : cache.Listed)
    (split : past = front ++ pass :: since) (flies : machine.InFlight key index slot)
    (stays : ∀ moment ∈ since, ¬ moment.Unlists key) : machine.cache.find? key = some slot := by
  -- The last moment of the run is either the check or one in flight.
  induction run generalizing since with
  | start => simp at split
  | @step past before after mover run stepped ih =>
      have listed := run.reachable.listed listed
      rcases concat_eq_append_cons split with ⟨rfl, rfl, rfl⟩ | ⟨rest, rfl, earlier⟩
      · exact listed_of_passes listed stepped flight.passes
      · have flew : before.InFlight key index slot := flight.flies ⟨mover, before⟩ (by simp)
        have flown : Flight key index slot pass rest :=
          ⟨flight.passes, fun moment member => flight.flies moment (by simp [member])⟩
        have found := ih flown earlier (flight.flies ⟨mover, before⟩ (by simp))
          fun moment member => stays moment (by simp [member])
        exact InFlight.listed_step (run.reachable.exclusive unused) listed stepped flies
          (stays _ (by simp)) found

/-- Between the checks of two callers that are in flight for one key, the slot of the first was taken
off the list. -/
def Parted (key : String) (first second : Nat) (past : List (Moment L)) : Prop :=
  ∃ front pass between pass' since slot slot',
    past = front ++ pass :: (between ++ pass' :: since) ∧
    Flight key first slot pass (between ++ pass' :: since) ∧ Flight key second slot' pass' since ∧
    ∃ moment ∈ between, moment.Unlists key

theorem Flight.parted {first second : Nat} {slot' : SlotId} {pass' : Moment L}
    {between : List (Moment L)} (flight : Flight key first slot pass (between ++ pass' :: since))
    (run : Run (.start cache calls) past machine) (unused : cache.held = []) (listed : cache.Listed)
    (split : past = front ++ pass :: (between ++ pass' :: since))
    (flight' : Flight key second slot' pass' since) (different : first ≠ second) :
    Parted key first second past := by
  refine ⟨front, pass, between, pass', since, slot, slot', split, flight, flight', ?_⟩
  by_contra! stays
  -- With no removal the second would have found the slot that the first holds.
  have flies := flight.flies pass' (by simp)
  have cut : Run (.start cache calls) (front ++ pass :: between) pass'.machine :=
    run.cut (by simpa using split)
  have flown : Flight key first slot pass between :=
    ⟨flight.passes, fun moment member => flight.flies moment (by simp [member])⟩
  have found := flown.listed cut unused listed rfl flies stays
  obtain rfl : slot = slot' := Option.some.inj (found.symm.trans flight'.passes.2.1)
  have exclusive := cut.reachable.exclusive unused
  exact different (exclusive.single _ _ _ flies.holds flight'.passes.holds)

theorem Run.parted {first second : Nat} {slot slot' : SlotId}
    (run : Run (.start cache calls) past machine) (unused : cache.held = []) (listed : cache.Listed)
    (different : first ≠ second) (flies : machine.InFlight key first slot)
    (flies' : machine.InFlight key second slot') :
    Parted key first second past ∨ Parted key second first past := by
  obtain ⟨front, pass, since, split, flight⟩ := run.flight flies
  obtain ⟨front', pass', since', split', flight'⟩ := run.flight flies'
  have movers : pass ≠ pass' := by
    intro same
    subst same
    exact different (flight.passes.1.symm.trans flight'.passes.1)
  rcases List.append_eq_append_iff.mp (split.symm.trans split') with
    ⟨between, _, rest⟩ | ⟨between, _, rest⟩
  · cases between with
    | nil => exact absurd (List.cons.inj rest).1 movers
    | cons _ between =>
        obtain ⟨rfl, rfl⟩ := List.cons.inj rest
        exact .inl (flight.parted run unused listed split flight' different)
  · cases between with
    | nil => exact absurd (List.cons.inj rest).1.symm movers
    | cons _ between =>
        obtain ⟨rfl, rfl⟩ := List.cons.inj rest
        exact .inr (flight'.parted run unused listed split' flight different.symm)

end Runs

/-! ## Runs by a schedule -/

theorem Run.inFlight_of_asked {cache : Cache L} {calls : List (Call L)}
    {outcome : Except TemplateError (Artifact L)} (run : Run (.start cache calls) past machine)
    (asked : calls[index]? = some (.obtain key fingerprint outcome))
    (flies : (machine.callers[index]?.bind (·.phase.inFlight?)) = some slot) :
    machine.InFlight key index slot := by
  obtain ⟨caller, found, flies⟩ := Option.bind_eq_some_iff.mp flies
  obtain ⟨call, phase⟩ := caller
  cases asked.symm.trans (call_of_callers run.reachable.calls_eq found)
  exact ⟨_, _, _, found, flies⟩

/-- The steps that callers take in the order of a schedule. -/
def moments (machine : Machine L) : List Nat → List (Moment L)
  | [] => []
  | index :: rest =>
      match machine.step? index with
      | none => machine.moments rest
      | some next => ⟨index, machine⟩ :: next.moments rest

theorem Run.append_moments (run : Run initial past machine) (schedule : List Nat) :
    Run initial (past ++ machine.moments schedule) (machine.runSchedule schedule) := by
  induction schedule generalizing past machine with
  | nil => simpa [runSchedule, moments] using run
  | cons index rest ih =>
      cases stepped : machine.step? index with
      | none => simpa [runSchedule, moments, stepped] using ih run
      | some next => simpa [runSchedule, moments, stepped] using ih (run.step stepped)

theorem step?_of_isSome (steps : (machine.step? index).isSome = true) :
    machine.step? index = some (machine.runSchedule [index]) := by
  obtain ⟨next, stepped⟩ := Option.isSome_iff_exists.mp steps
  simp [runSchedule, stepped]

/-! ## Removals and overlapping compiles -/

/-- From its check until it has settled its slot, or has taken it off the list after a first compile that
failed, a call finds the slot listed unless the key was removed; and two compiles for a key run at once only
if it was removed while the first was in flight. -/
theorem inFlight_kept_and_parted (capacity : Option Nat) (failurePolicy : FailurePolicy)
    (calls : List (Call L)) (run : Run (.start (.create capacity failurePolicy) calls) past machine)
    (key : String) :
    (∀ index slot, machine.InFlight key index slot →
      ∃ front pass since, past = front ++ pass :: since ∧ Flight key index slot pass since ∧
        ((∀ moment ∈ since, ¬ moment.Unlists key) → machine.cache.find? key = some slot)) ∧
    (∀ first second, first ≠ second → (machine.compiling? key first).isSome →
      (machine.compiling? key second).isSome →
      Parted key first second past ∨ Parted key second first past) := by
  have listed : (Cache.create capacity failurePolicy : Cache L).Listed :=
    Cache.create_listed capacity failurePolicy
  constructor
  · intro index slot flies
    obtain ⟨front, pass, since, split, flight⟩ := run.flight flies
    exact ⟨front, pass, since, split, flight, flight.listed run rfl listed split flies⟩
  · intro first second different compiles compiles'
    obtain ⟨slot, flies⟩ := inFlight_of_compiling? compiles
    obtain ⟨slot', flies'⟩ := inFlight_of_compiling? compiles'
    exact run.parted rfl listed different flies flies'

/-- A page is removed while a caller is about to compile it, and then compiled by another caller too. -/
def overtaken : List (Call Nat) :=
  let fingerprint : Fingerprint := ⟨Sha256.initial⟩
  let compiled : Except TemplateError (Artifact Nat) :=
    .ok ⟨"page", fingerprint, .dynamic, none, "source", 1⟩
  [.obtain "page" fingerprint compiled, .remove "page", .obtain "page" fingerprint compiled]

/-- The page is removed between the check of the first caller and its compile. -/
def overtakenSchedule : List Nat :=
  [0, 0, 0, 0, 0, 1, 1, 1, 2, 2, 2, 2, 2, 2, 0]

theorem overtaken_kept_and_parted :
    ∃ past machine, Run (.start (.create (some 1) .retry) overtaken) past machine ∧
      (machine.compiling? "page" 0).isSome ∧ (machine.compiling? "page" 2).isSome ∧
      (∃ slot front pass since, past = front ++ pass :: since ∧ Flight "page" 2 slot pass since) ∧
      (Parted "page" 0 2 past ∨ Parted "page" 2 0 past) := by
  let machine : Machine Nat := start (.create (some 1) .retry) overtaken
  have run := (Run.start : Run machine [] machine).append_moments overtakenSchedule
  have first : ((machine.runSchedule overtakenSchedule).compiling? "page" 0).isSome := by
    decide +kernel
  have second : ((machine.runSchedule overtakenSchedule).compiling? "page" 2).isSome := by
    decide +kernel
  obtain ⟨kept, parted⟩ := inFlight_kept_and_parted (some 1) .retry overtaken run "page"
  obtain ⟨slot, flies⟩ := inFlight_of_compiling? second
  obtain ⟨front, pass, since, split, flight, _⟩ := kept 2 slot flies
  exact ⟨_, _, run, first, second, ⟨slot, front, pass, since, split, flight⟩,
    parted 0 2 (by decide) first second⟩

/-- No call that removes the key is under way or yet to come. -/
def IsQuiet (machine : Machine L) (key : String) : Prop :=
  ∀ caller ∈ machine.callers, caller.call.unlists key = true → caller.phase.isDone = true

instance : Decidable (machine.IsQuiet key) :=
  inferInstanceAs (Decidable (∀ caller ∈ machine.callers, _))

/-- A page whose compile fails. -/
def refused : List (Call Nat) :=
  [.obtain "page" ⟨Sha256.initial⟩ (.error (.generation []))]

/-- Nobody has the lock of the list between a check and the compile after it.  A removal that has come to its
end by then lets two compiles run at once, though none is under way while either of them runs.  And a slot
that was vacant when its compile failed is taken off the list unsettled, though nobody removes its key. -/
theorem overtaken_before_compiling :
    (∃ past machine, Run (.start (.create none .retry) overtaken) past machine ∧
      (machine.compiling? "page" 0).isSome ∧ (machine.compiling? "page" 2).isSome ∧
      machine.IsQuiet "page" ∧
      ∀ moment ∈ past, (moment.machine.compiling? "page" 0).isSome ∨
        (moment.machine.compiling? "page" 2).isSome → moment.machine.IsQuiet "page") ∧
    ∃ past before after, Run (.start (.create none .retry) refused) past before ∧
      (∀ call ∈ refused, call.unlists "page" = false) ∧ before.InFlight "page" 0 0 ∧
      before.cache.find? "page" = some 0 ∧ before.step? 0 = some after ∧
      after.cache.find? "page" = none ∧ (after.cache.slot 0).isSettled = false := by
  constructor
  · let machine : Machine Nat := start (.create none .retry) overtaken
    have run := (Run.start : Run machine [] machine).append_moments overtakenSchedule
    exact ⟨_, _, run, by decide +kernel, by decide +kernel, by decide +kernel, by decide +kernel⟩
  · let schedule := [0, 0, 0, 0, 0, 0, 0, 0, 0]
    let machine : Machine Nat := start (.create none .retry) refused
    have run := (Run.start : Run machine [] machine).append_moments schedule
    have steps : ((machine.runSchedule schedule).step? 0).isSome = true := by decide +kernel
    have flies : InFlight _ "page" 0 0 := run.inFlight_of_asked rfl (by decide +kernel)
    exact ⟨_, _, _, run, by simp [refused, Call.unlists], flies, by decide +kernel,
      step?_of_isSome steps, by decide +kernel, by decide +kernel⟩

end Machine
end Templating
