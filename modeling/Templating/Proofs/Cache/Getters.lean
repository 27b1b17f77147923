import Templating.Proofs.Cache.InFlight

/-!
What a call that only reads may find.

A getter looks its key up once, and then waits for the slot that it has found.  What it reads there
was listed for the key at some moment of its call, with one exception: a removal takes the slot off
the list while another call is about to fill it.  The getter does not look again after its wait, and
returns an artifact that was listed at no moment.
-/

namespace Templating

variable {L : Type u}

namespace Machine

/-- A call has begun, and has not ended. -/
def Underway (machine : Machine L) (index : Nat) : Prop :=
  ∃ caller, machine.callers[index]? = some caller ∧ caller.phase ≠ .start ∧
    caller.phase.isDone = false

end Machine

/-- At some moment of a call the artifact was listed for the key. -/
def Seen (key : String) (index : Nat) (artifact : Shared (Artifact L)) (past : List (Moment L)) :
    Prop :=
  ∃ moment ∈ past, moment.machine.Underway index ∧ moment.machine.cache.cached? key = some artifact

/-- A removal has taken the slot that a getter waits for off the list, while a call was about to
fill it. -/
def Overtaken (key : String) (index : Nat) (past : List (Moment L)) : Prop :=
  ∃ moment ∈ past, moment.Unlists key ∧ ∃ slot writer,
    moment.machine.callers[index]? = some ⟨.get key, .queued slot⟩ ∧
      moment.machine.cache.find? key = some slot ∧ moment.machine.InFlight key writer slot

variable {key : String} {index mover : Nat} {slot : SlotId} {artifact : Shared (Artifact L)}
  {machine : Machine L} {past more : List (Moment L)}

theorem Seen.mono (seen : Seen key index artifact past) : Seen key index artifact (past ++ more) := by
  obtain ⟨moment, member, holds⟩ := seen
  exact ⟨moment, List.mem_append_left _ member, holds⟩

theorem Overtaken.mono (overtaken : Overtaken key index past) :
    Overtaken key index (past ++ more) := by
  obtain ⟨moment, member, holds⟩ := overtaken
  exact ⟨moment, List.mem_append_left _ member, holds⟩

/-- The phases of a getter in which it has a slot and has not read it. -/
inductive Phase.Waits (slot : SlotId) : Phase L → Prop where
  | queued : Waits slot (.queued slot)
  | reading : Waits slot (.reading slot)

theorem Phase.Waits.slot? {phase : Phase L} (waits : phase.Waits slot) :
    phase.slot? = some slot := by
  cases waits <;> rfl

/-- What is known of the slot of a getter: it is listed, it was taken away while it was about to be
filled, or it is filled no more and what it holds was listed. -/
inductive Followed (key : String) (index : Nat) (slot : SlotId) (past : List (Moment L))
    (machine : Machine L) : Prop where
  | listed (found : machine.cache.find? key = some slot)
  | overtaken (overtaken : Overtaken key index past)
  | left (absent : machine.cache.find? key ≠ some slot)
      (idle : ∀ writer, ¬ machine.InFlight key writer slot)
      (seen : ∀ artifact, (machine.cache.slot slot).state = .ready artifact →
        Seen key index artifact past)

section Step

variable {before after : Machine L} {phase : Phase L} {owner : SlotId → String}

theorem seen_of_listed (there : before.callers[index]? = some ⟨.get key, phase⟩)
    (waits : phase.Waits slot) (found : before.cache.find? key = some slot)
    (ready : (before.cache.slot slot).state = .ready artifact) :
    Seen key index artifact (past ++ [⟨mover, before⟩]) := by
  refine ⟨⟨mover, before⟩, by simp, ⟨_, there, ?_, ?_⟩, Cache.cached?_of_find? found ready⟩
  · cases waits <;> simp
  · cases waits <;> rfl

theorem Followed.step (exclusive : before.Exclusive) (owned : before.Owned owner)
    (there : before.callers[index]? = some ⟨.get key, phase⟩) (waits : phase.Waits slot)
    (followed : Followed key index slot past before) (stepped : before.step? mover = some after) :
    Followed key index slot (past ++ [⟨mover, before⟩]) after := by
  obtain ⟨within, mine⟩ := owned.callers _ (List.mem_of_getElem? there) slot waits.slot?
  obtain ⟨call, reached, lock', reached', cache', moves, move, same⟩ :=
    Machine.step?_eq_some_iff.mp stepped
  cases followed with
  | overtaken overtaken => exact .overtaken overtaken.mono
  | listed found =>
      rcases move.find?_of_some owned.listed found with kept | ⟨gone, unlisting⟩
      · exact .listed (by rw [same]; exact kept)
      · by_cases taken : Moment.Unlists key ⟨mover, before⟩ ∧
            ∃ writer, before.InFlight key writer slot
        · obtain ⟨unlists, writer, flies⟩ := taken
          cases waits with
          | queued =>
              exact .overtaken ⟨_, by simp, unlists, slot, writer, there, found, flies⟩
          | reading =>
              -- The getter has the lock of the slot, and so nobody is in flight for it.
              obtain rfl : writer = index := exclusive.single _ _ _ flies.holds ⟨_, there, rfl⟩
              obtain ⟨_, _, _, obtains, _⟩ := flies
              cases there.symm.trans obtains
        · refine .left (by rw [same]; simp [gone])
            (Machine.idle_of_unlisting exclusive unlisting moves taken stepped) ?_
          intro artifact ready
          have kept := move.slot_state_eq slot (by rintro _ rfl; cases unlisting)
          rw [same] at ready
          exact seen_of_listed there waits found (kept ▸ ready)
  | left absent idle seen =>
      have absent' : after.cache.find? key ≠ some slot := by
        rw [same]
        cases found : before.cache.find? key with
        | none =>
            rcases move.find?_of_none owned.listed found with still | ⟨_, _, _, _, fresh⟩
            · simp [still]
            · simp [fresh, Nat.ne_of_gt within]
        | some other =>
            have different : other ≠ slot := by
              rintro rfl
              exact absent found
            rcases move.find?_of_some owned.listed found with still | ⟨gone, _⟩
            · simp [still, different]
            · simp [gone]
      refine .left absent' ?_ ?_
      · intro writer flies
        rcases flies.of_step stepped with flew | ⟨_, found, _⟩
        · exact idle writer flew
        · exact absent found
      · intro artifact ready
        -- Whoever writes the slot is in flight for the key that the slot was made for.
        have quiet : ∀ outcome, reached ≠ .compiled slot outcome := by
          rintro outcome rfl
          have obtains := exclusive.proper _ (List.mem_of_getElem? moves) rfl
          obtain ⟨_, key⟩ := owned.callers _ (List.mem_of_getElem? moves) slot rfl
          cases call with
          | obtain other fingerprint result =>
              cases key.trans mine.symm
              exact idle mover ⟨_, _, _, moves, rfl⟩
          | _ => contradiction
        rw [same] at ready
        exact (seen artifact (move.slot_state_eq slot quiet ▸ ready)).mono

end Step

/-- Where a getter is, and what is known of the slot it waits for or of the artifact it has read. -/
inductive Follows (key : String) (index : Nat) (past : List (Moment L)) (machine : Machine L) :
    Phase L → Prop where
  | before : Follows key index past machine .start
  | looks : Follows key index past machine .listing
  | waits {phase : Phase L} {target : SlotId} (waits : phase.Waits target)
      (followed : Followed key index target past machine) : Follows key index past machine phase
  | leaves {target : SlotId} {answer : Answer L} (sources : ∀ artifact, answer = .found (some artifact) →
      Seen key index artifact past ∨ Overtaken key index past) :
      Follows key index past machine (.leaving target answer)
  | done {answer : Answer L} (sources : ∀ artifact, answer = .found (some artifact) →
      Seen key index artifact past ∨ Overtaken key index past) :
      Follows key index past machine (.done answer)

section Step

variable {before after : Machine L} {phase : Phase L} {owner : SlotId → String}

theorem Followed.read (there : before.callers[index]? = some ⟨.get key, .reading slot⟩)
    (followed : Followed key index slot past before)
    (ready : before.cache.artifact? slot = some artifact) :
    Seen key index artifact (past ++ [⟨mover, before⟩]) ∨
      Overtaken key index (past ++ [⟨mover, before⟩]) := by
  have ready := Cache.artifact?_eq_some_iff.mp ready
  cases followed with
  | listed found => exact .inl (seen_of_listed there .reading found ready)
  | overtaken overtaken => exact .inr overtaken.mono
  | left _ _ seen => exact .inl (seen artifact ready).mono

theorem Follows.other (exclusive : before.Exclusive) (owned : before.Owned owner)
    (there : before.callers[index]? = some ⟨.get key, phase⟩)
    (follows : Follows key index past before phase) (stepped : before.step? mover = some after) :
    Follows key index (past ++ [⟨mover, before⟩]) after phase := by
  cases follows with
  | before => exact .before
  | looks => exact .looks
  | waits waits followed =>
      exact .waits waits (followed.step exclusive owned there waits stepped)
  | leaves sources =>
      exact .leaves fun artifact same => (sources artifact same).imp Seen.mono Overtaken.mono
  | done sources =>
      exact .done fun artifact same => (sources artifact same).imp Seen.mono Overtaken.mono

theorem Follows.own {phase' : Phase L} (exclusive : before.Exclusive) (owned : before.Owned owner)
    (there : before.callers[index]? = some ⟨.get key, phase⟩)
    (follows : Follows key index past before phase) (stepped : before.step? index = some after)
    (moved : after.callers[index]? = some ⟨.get key, phase'⟩) :
    Follows key index (past ++ [⟨index, before⟩]) after phase' := by
  obtain ⟨call, reached, lock', reached', cache', moves, move, same⟩ :=
    Machine.step?_eq_some_iff.mp stepped
  cases there.symm.trans moves
  have within := (List.getElem?_eq_some_iff.mp moves).1
  obtain rfl : reached' = phase' := by
    simpa [same, List.getElem?_set_self within] using moved
  generalize before.listLock = lock at move
  cases follows with
  | before =>
      cases move
      exact .looks
  | looks =>
      cases move with
      | find fetches found =>
          cases fetches
          exact .waits .queued (.listed (by rw [same]; simpa [Cache.touch_find? found] using found))
      | glance glances =>
          cases glances
          exact .done (by simp)
  | waits waits followed =>
      have after := followed.step exclusive owned there waits stepped
      cases waits with
      | queued =>
          cases move
          exact .waits .reading after
      | reading =>
          cases move with
          | read reads =>
              cases reads
              exact .leaves fun artifact same => followed.read there (Answer.found.inj same)
  | leaves sources =>
      cases move
      exact .done fun artifact same => (sources artifact same).imp Seen.mono Overtaken.mono
  | done => cases move

end Step

namespace Machine

variable {calls : List (Call L)} {capacity : Option Nat} {failurePolicy : FailurePolicy}

theorem Run.follows (run : Run (.start (.create capacity failurePolicy) calls) past machine)
    {phase : Phase L} (there : machine.callers[index]? = some ⟨.get key, phase⟩) :
    Follows key index past machine phase := by
  induction run generalizing phase with
  | start =>
      cases start_phase there
      exact .before
  | step run stepped ih =>
      obtain ⟨owner, explained⟩ := run.reachable.explained
      have exclusive := run.reachable.exclusive rfl
      rcases caller_of_step? stepped there with ⟨_, found⟩ | ⟨rfl, reached, found, _⟩
      · exact (ih found).other exclusive explained.owned found stepped
      · exact (ih found).own exclusive explained.owned found stepped there

theorem Run.not_overtaken (run : Run (.start (.create capacity failurePolicy) calls) past machine)
    (kept : ∀ call ∈ calls, call.unlists key = false) : ¬ Overtaken key index past := by
  intro overtaken
  obtain ⟨moment, member, ⟨call, moves, unlists⟩, _⟩ := overtaken
  obtain ⟨front, back, split⟩ := List.append_of_mem member
  have asked := call_of_callers (run.cut split).reachable.calls_eq moves
  simp [kept call (List.mem_of_getElem? asked)] at unlists

/-- What a getter returns was listed for its key at some moment of its call, unless a removal took
its slot off the list while another call was about to fill it. -/
theorem get_answers_seen (capacity : Option Nat) (failurePolicy : FailurePolicy)
    (calls : List (Call L)) (run : Run (.start (.create capacity failurePolicy) calls) past machine)
    (asked : calls[index]? = some (.get key))
    (answered : machine.answer? index = some (.found (some artifact))) :
    (Seen key index artifact past ∨ Overtaken key index past) ∧
      ((∀ call ∈ calls, call.unlists key = false) → Seen key index artifact past) := by
  obtain ⟨call, there⟩ := caller_of_answer? answered
  obtain rfl : call = .get key := by
    have same := call_of_callers run.reachable.calls_eq there
    exact Option.some.inj (same.symm.trans asked)
  have sources : Seen key index artifact past ∨ Overtaken key index past := by
    cases run.follows there with
    | waits waits => cases waits
    | done sources => exact sources artifact rfl
  exact ⟨sources, fun kept => sources.resolve_right (run.not_overtaken kept)⟩

def finds [DecidableEq L] (machine : Machine L) (index : Nat) (artifact : Shared (Artifact L)) : Bool :=
  match machine.answer? index with
  | some (.found found) => found = some artifact
  | _ => false

theorem answer?_of_finds [DecidableEq L] (finds : machine.finds index artifact = true) :
    machine.answer? index = some (.found (some artifact)) := by
  unfold Machine.finds at finds
  split at finds
  · next found answered => rw [answered, of_decide_eq_true finds]
  · contradiction

def pageArtifact : Artifact Nat :=
  ⟨"page", ⟨Sha256.initial⟩, .dynamic, none, "source", 1⟩

/-- A page is compiled, and a getter waits for it. -/
def waitedPage : Machine Nat :=
  start (.create (some 1) .retry) [.obtain "page" ⟨Sha256.initial⟩ (.ok pageArtifact), .get "page"]

theorem waitedPage_answers_seen :
    ∃ past machine, Run waitedPage past machine ∧
      machine.answer? 1 = some (.found (some ⟨0, pageArtifact⟩)) ∧
      Seen "page" 1 ⟨0, pageArtifact⟩ past := by
  let schedule := [0, 0, 0, 0, 0, 0, 1, 1, 0, 0, 0, 0, 0, 0, 0, 0, 1, 1, 1]
  have begun : Run waitedPage [] waitedPage := .start
  have run := begun.append_moments schedule
  have answered : (waitedPage.runSchedule schedule).answer? 1 =
      some (.found (some ⟨0, pageArtifact⟩)) := answer?_of_finds (by decide +kernel)
  obtain ⟨_, seen⟩ := get_answers_seen (some 1) .retry _ run rfl answered
  exact ⟨_, _, run, answered, seen (by simp [Call.unlists])⟩

/-- A page is compiled, a getter waits for it, and the page is removed. -/
def removedPage : Machine Nat :=
  start (.create none .retry)
    [.obtain "page" ⟨Sha256.initial⟩ (.ok pageArtifact), .get "page", .remove "page"]

/-- The page is removed before its compile ends, and the getter returns what was never listed. -/
theorem removedPage_answers_unlisted :
    ∃ past machine, Run removedPage past machine ∧
      machine.answer? 1 = some (.found (some ⟨0, pageArtifact⟩)) ∧
      (∀ moment ∈ past, moment.machine.cache.cached? "page" = none) ∧
      machine.cache.cached? "page" = none := by
  let schedule := [0, 0, 0, 0, 0, 0, 1, 1, 2, 2, 2, 0, 0, 0, 0, 0, 1, 1, 1]
  have begun : Run removedPage [] removedPage := .start
  have never : (removedPage.moments schedule).all
      (fun moment => (moment.machine.cache.cached? "page").isNone) = true := by decide +kernel
  refine ⟨_, _, begun.append_moments schedule, answer?_of_finds (by decide +kernel),
    fun moment member => ?_, Option.isNone_iff_eq_none.mp (by decide +kernel)⟩
  simpa using List.all_eq_true.mp never moment (by simpa using member)

end Machine
end Templating
