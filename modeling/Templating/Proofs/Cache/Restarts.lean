import Mathlib.Data.Set.Card
import Templating.Proofs.Cache.Getters
import Templating.Proofs.Cache.Nesting

/-!
How often a call starts over.

A call that obtains a slot looks its key up, waits for the lock of the slot, and then checks that the slot
is listed still.  If it is not, the call lets go of the slot and starts over.  No measure goes down by
this, and yet each round costs the cache a slot: a lookup returns the slot that is listed then, the slot
has left the list by the time of the check, and a slot that has left the list is never listed again.  So
no slot makes a call start over twice, and the rounds are bounded by the slots of the key that leave the
list while the call is under way.

One thread is never between a lookup and its check while another call takes a step, and so never starts
over.
-/

namespace Templating

variable {L : Type u}

/-- The slot that a caller has looked up and is yet to check. -/
def Phase.seeks? : Phase L → Option SlotId
  | .queued slot | .holding slot | .checking slot => some slot
  | _ => none

/-- The slot of the round that a caller is in, until it passes its check. -/
def Phase.tries? : Phase L → Option SlotId
  | .outdated slot => some slot
  | phase => phase.seeks?

/-- Whether a caller runs no code of the cache: its call has not begun or has ended, or its compile
runs. -/
def Phase.isOutside : Phase L → Bool
  | .start | .compiling _ | .done _ => true
  | _ => false

/-- The slot was made, and it is not on the list. -/
structure Cache.Retired (cache : Cache L) (slot : SlotId) : Prop where
  made : slot < cache.slots.size
  unlisted : ∀ entry ∈ cache.entries, entry.2 ≠ slot

namespace Machine

def Seeks (machine : Machine L) (key : String) (index : Nat) (slot : SlotId) : Prop :=
  ∃ fingerprint outcome phase,
    machine.callers[index]? = some ⟨.obtain key fingerprint outcome, phase⟩ ∧ phase.seeks? = some slot

def IsOutdated (machine : Machine L) (index : Nat) (slot : SlotId) : Prop :=
  ∃ call, machine.callers[index]? = some ⟨call, .outdated slot⟩

end Machine

namespace Moment

/-- The slot that a caller lets go of in order to start over. -/
def restart? (index : Nat) (moment : Moment L) : Option SlotId :=
  match moment.machine.callers[index]? with
  | some ⟨_, .outdated slot⟩ => if moment.mover = index then some slot else none
  | _ => none

/-- A call looks its key up and obtains the slot. -/
def Looks (key : String) (index : Nat) (slot : SlotId) (moment : Moment L) : Prop :=
  moment.mover = index ∧ (moment.machine.cache.slotFor key).1 = slot ∧
    ∃ fingerprint outcome,
      moment.machine.callers[index]? = some ⟨.obtain key fingerprint outcome, .listing⟩

/-- A call checks its slot and finds that it is not the slot of the key. -/
def Misses (key : String) (index : Nat) (slot : SlotId) (moment : Moment L) : Prop :=
  moment.mover = index ∧ moment.machine.cache.find? key ≠ some slot ∧
    ∃ fingerprint outcome,
      moment.machine.callers[index]? = some ⟨.obtain key fingerprint outcome, .checking slot⟩

/-- The slot of the key leaves the list: it is removed, cleared away, discarded or evicted. -/
structure Departs (key : String) (slot : SlotId) (moment : Moment L) : Prop where
  listed : moment.machine.cache.find? key = some slot
  gone : ∃ after, moment.machine.step? moment.mover = some after ∧ after.cache.find? key = none
  cause : ∃ call phase, moment.machine.callers[moment.mover]? = some ⟨call, phase⟩ ∧
    Unlisting moment.machine.cache key slot call phase

/-- All callers but the one that takes the step are outside the cache. -/
def Alone (moment : Moment L) : Prop :=
  ∀ other (within : other < moment.machine.callers.length), other ≠ moment.mover →
    moment.machine.callers[other].phase.isOutside = true

instance (moment : Moment L) : Decidable moment.Alone :=
  inferInstanceAs (Decidable (∀ other (within : other < moment.machine.callers.length),
    other ≠ moment.mover → moment.machine.callers[other].phase.isOutside = true))

end Moment

namespace Machine

/-- The slots that made a call start over, one for each time. -/
def restarts (index : Nat) (past : List (Moment L)) : List SlotId :=
  past.filterMap (Moment.restart? index)

/-- The slots of the key that left the list while a call was under way. -/
def departed (key : String) (index : Nat) (past : List (Moment L)) : Set SlotId :=
  {slot | ∃ moment ∈ past, moment.machine.Underway index ∧ moment.Departs key slot}

/-- All calls are those of one thread.  A call that a compile makes steps while the calls around it
compile. -/
def SingleThreaded (past : List (Moment L)) : Prop :=
  ∀ moment ∈ past, moment.Alone

/-- A round of a call that ends with a miss: its lookup, the moments until its check, the check, and
the moments in which it still has the slot. -/
structure Round (key : String) (index : Nat) (slot : SlotId) (look : Moment L) (waits : List (Moment L))
    (check : Moment L) (rest : List (Moment L)) : Prop where
  looks : look.Looks key index slot
  seeks : ∀ moment ∈ waits, moment.machine.Seeks key index slot
  misses : check.Misses key index slot
  outdated : ∀ moment ∈ rest, moment.machine.IsOutdated index slot

/-- A call that was to start over after the moments `front` has seen its slot leave the list between its
lookup and its check, and the slot is listed at no moment after that. -/
def Lost (key : String) (index : Nat) (slot : SlotId) (front back : List (Moment L))
    (machine : Machine L) : Prop :=
  ∃ earlier look waits departure gone check rest,
    front = earlier ++ look :: (waits ++ departure :: (gone ++ check :: rest)) ∧
    Round key index slot look (waits ++ departure :: gone) check rest ∧ departure.Departs key slot ∧
    (∀ later ∈ gone ++ check :: (rest ++ back), later.machine.cache.Retired slot) ∧
    machine.cache.Retired slot

end Machine

/-! ## Slots that have left the list -/

section Move

variable {index : Nat} {cache cache' : Cache L} {call : Call L} {lock lock' : Option Nat}
  {phase phase' : Phase L} {key : String} {slot : SlotId}

/-- A step lists no slot that was made before and was not listed. -/
theorem Move.mem_entries_of_made (move : Move index cache call lock phase lock' phase' cache')
    (listed : cache.Listed) {entry : String × SlotId} (member : entry ∈ cache'.entries)
    (made : entry.2 < cache.slots.size) : entry ∈ cache.entries := by
  cases move with
  | seek => exact Cache.mem_slotFor_entries member made
  | find fetches found => exact (listed.touch_perm found).mem_iff.mp member
  | unlist => exact (Cache.others_sublist cache _).subset member
  | clear => exact absurd member List.not_mem_nil
  | drop => exact (Cache.discard_entries_sublist cache _ _).subset member
  | scan bound stepped => exact (Cache.scanStep_entries_sublist stepped).subset member
  | _ => exact member

theorem Cache.Retired.move (retired : cache.Retired slot) (listed : cache.Listed)
    (move : Move index cache call lock phase lock' phase' cache') : cache'.Retired slot where
  made := Nat.lt_of_lt_of_le retired.made move.size_le
  unlisted := by
    rintro entry member rfl
    exact retired.unlisted entry (move.mem_entries_of_made listed member retired.made) rfl

/-- A slot that is listed under no key is not the one that a lookup obtains. -/
theorem Cache.Retired.slotFor_ne (retired : cache.Retired slot) (key : String) :
    (cache.slotFor key).1 ≠ slot := by
  cases found : cache.find? key with
  | some other =>
      rw [Cache.slotFor_of_some found]
      exact retired.unlisted _ (Cache.mem_of_find? found)
  | none =>
      rw [Cache.slotFor_of_none found]
      exact (Nat.ne_of_lt retired.made).symm

theorem Move.seeks (move : Move index cache (.obtain key fingerprint outcome) lock phase lock' phase' cache')
    (seeks : phase'.seeks? = some slot) :
    phase.seeks? = some slot ∨ (phase = .listing ∧ (cache.slotFor key).1 = slot) := by
  cases move with
  | seek => exact .inr ⟨rfl, Option.some.inj seeks⟩
  | find fetches => cases fetches
  | acquire | confirm => exact .inl seeks
  | _ => cases seeks

theorem Phase.seeks?_eq_some_iff :
    phase.seeks? = some slot ↔ phase = .queued slot ∨ phase = .holding slot ∨ phase = .checking slot := by
  cases phase <;> simp [Phase.seeks?]

theorem Phase.tries?_of_seeks? (seeks : phase.seeks? = some slot) : phase.tries? = some slot := by
  rcases Phase.seeks?_eq_some_iff.mp seeks with rfl | rfl | rfl <;> rfl

theorem Move.to_outdated (move : Move index cache call lock phase lock' (.outdated slot) cache') :
    phase = .checking slot ∧ ∃ key fingerprint outcome, call = .obtain key fingerprint outcome ∧
      cache.find? key ≠ some slot := by
  cases move with
  | miss replaced =>
      refine ⟨rfl, _, _, _, rfl, fun found => ?_⟩
      simp [Cache.isCurrent_iff.mpr found] at replaced

theorem Move.of_outdated (move : Move index cache call lock (.outdated slot) lock' phase' cache') :
    phase' = .start := by
  cases move
  rfl

theorem Move.tries (move : Move index cache (.obtain key fingerprint outcome) lock phase lock' phase' cache')
    (tries : phase'.tries? = some slot) :
    phase.tries? = some slot ∨ (phase = .listing ∧ (cache.slotFor key).1 = slot) := by
  have sought (seeks : phase'.seeks? = some slot) :
      phase.tries? = some slot ∨ (phase = .listing ∧ (cache.slotFor key).1 = slot) :=
    (move.seeks seeks).imp_left Phase.tries?_of_seeks?
  cases phase' with
  | outdated other =>
      cases tries
      rw [move.to_outdated.1]
      exact .inl rfl
  | _ => exact sought tries

end Move

namespace Machine

variable {initial before after machine : Machine L} {past front back : List (Moment L)}
  {moment : Moment L} {key : String} {index mover : Nat} {slot : SlotId}

/-- What follows a moment of a run is a run from where its step leads to. -/
theorem Run.rest (run : Run initial past machine) (split : past = front ++ moment :: back) :
    ∃ next, moment.machine.step? moment.mover = some next ∧ Run next back machine := by
  induction run generalizing back with
  | start => simp at split
  | step run stepped ih =>
      rcases concat_eq_append_cons split with ⟨rfl, rfl, rfl⟩ | ⟨rest, rfl, earlier⟩
      · exact ⟨_, stepped, .start⟩
      · obtain ⟨next, first, run⟩ := ih earlier
        exact ⟨next, first, run.step stepped⟩

theorem Run.retired (run : Run initial past machine) (listed : initial.cache.Listed)
    (retired : initial.cache.Retired slot) :
    (∀ later ∈ past, later.machine.cache.Retired slot) ∧ machine.cache.Retired slot := by
  induction run with
  | start => exact ⟨by simp, retired⟩
  | @step past before after mover run stepped ih =>
      obtain ⟨earlier, now⟩ := ih
      obtain ⟨call, phase, lock', phase', cache', moves, move, rfl⟩ := step?_eq_some_iff.mp stepped
      refine ⟨fun later member => ?_, now.move (run.reachable.listed listed) move⟩
      rcases List.mem_append.mp member with old | last
      · exact earlier later old
      · exact List.mem_singleton.mp last ▸ now

/-! ## Why a call starts over -/

theorem Seeks.of_step (stepped : before.step? mover = some after) (seeks : after.Seeks key index slot) :
    before.Seeks key index slot ∨ Moment.Looks key index slot ⟨mover, before⟩ := by
  obtain ⟨fingerprint, outcome, reached, there, seeks⟩ := seeks
  rcases caller_of_step? stepped there with ⟨_, found⟩ | ⟨rfl, phase, found, move⟩
  · exact .inl ⟨fingerprint, outcome, reached, found, seeks⟩
  · rcases move.seeks seeks with sought | ⟨rfl, obtained⟩
    · exact .inl ⟨fingerprint, outcome, phase, found, sought⟩
    · exact .inr ⟨rfl, obtained, fingerprint, outcome, found⟩

theorem IsOutdated.of_step (stepped : before.step? mover = some after)
    (outdated : after.IsOutdated index slot) :
    before.IsOutdated index slot ∨ ∃ key, Moment.Misses key index slot ⟨mover, before⟩ := by
  obtain ⟨call, there⟩ := outdated
  rcases caller_of_step? stepped there with ⟨_, found⟩ | ⟨rfl, phase, found, move⟩
  · exact .inl ⟨call, found⟩
  · obtain ⟨rfl, key, fingerprint, outcome, rfl, replaced⟩ := move.to_outdated
    exact .inr ⟨key, rfl, replaced, fingerprint, outcome, found⟩

theorem departs_of_step (listed : before.cache.Listed) (stepped : before.step? mover = some after)
    (found : before.cache.find? key = some slot) (lost : after.cache.find? key ≠ some slot) :
    Moment.Departs key slot ⟨mover, before⟩ := by
  obtain ⟨call, phase, lock', phase', cache', moves, move, same⟩ := step?_eq_some_iff.mp stepped
  rcases move.find?_of_some listed found with kept | ⟨gone, unlisting⟩
  · exact absurd (by rw [same]; exact kept) lost
  · exact ⟨found, ⟨after, stepped, by rw [same]; exact gone⟩, call, phase, moves, unlisting⟩

/-- A slot that leaves the list was listed for its key alone. -/
theorem retired_of_departs (listed : moment.machine.cache.Listed) (departs : moment.Departs key slot)
    (stepped : moment.machine.step? moment.mover = some after) : after.cache.Retired slot := by
  obtain ⟨next, first, gone⟩ := departs.gone
  cases first.symm.trans stepped
  obtain ⟨call, phase, lock', phase', cache', moves, move, rfl⟩ := step?_eq_some_iff.mp stepped
  have made := listed.within _ (Cache.mem_of_find? departs.listed)
  refine ⟨Nat.lt_of_lt_of_le made move.size_le, ?_⟩
  rintro entry member rfl
  have here := move.mem_entries_of_made listed member made
  have other := Cache.mem_others.mpr ⟨here, Cache.find?_eq_none_iff.mp gone entry member⟩
  exact listed.slot_ne departs.listed other rfl

theorem Run.departs (run : Run initial past machine) (listed : initial.cache.Listed)
    (found : initial.cache.find? key = some slot) (lost : machine.cache.find? key ≠ some slot) :
    ∃ front departure rest, past = front ++ departure :: rest ∧ departure.Departs key slot := by
  obtain ⟨front, departure, rest, split, departs, _⟩ :=
    run.since (fun machine => machine.cache.find? key ≠ some slot) (Moment.Departs key slot)
      (not_not.mpr found)
      (fun {before _ _} reachable stepped lost => by
        by_cases here : before.cache.find? key = some slot
        · exact .inr (departs_of_step (reachable.listed listed) stepped here lost)
        · exact .inl here) lost
  exact ⟨front, departure, rest, split, departs⟩

section Runs

variable {cache : Cache L} {calls : List (Call L)} {fingerprint : Fingerprint}
  {outcome : Except TemplateError (Artifact L)}

theorem Run.round (run : Run (.start cache calls) past machine)
    (asked : calls[index]? = some (.obtain key fingerprint outcome))
    (outdated : machine.IsOutdated index slot) :
    ∃ earlier look waits check rest, past = earlier ++ look :: (waits ++ check :: rest) ∧
      Round key index slot look waits check rest := by
  obtain ⟨front, check, rest, rfl, ⟨other, misses⟩, outdated⟩ :=
    run.since (fun machine => machine.IsOutdated index slot)
      (fun moment => ∃ key, moment.Misses key index slot)
      (fun given => by
        obtain ⟨call, found⟩ := given
        cases start_phase found)
      (fun _ stepped => IsOutdated.of_step stepped) outdated
  have cut := run.cut rfl
  have checks := misses.2.2
  obtain ⟨fingerprint, outcome, checks⟩ := checks
  obtain rfl : other = key := by
    have same := (call_of_callers cut.reachable.calls_eq checks).symm.trans asked
    cases same
    rfl
  obtain ⟨earlier, look, waits, rfl, looks, seeks⟩ :=
    cut.since (fun machine => machine.Seeks other index slot) (Moment.Looks other index slot)
      (fun given => by
        obtain ⟨_, _, phase, found, seeks⟩ := given
        cases start_phase found
        cases seeks)
      (fun _ stepped => Seeks.of_step stepped) ⟨fingerprint, outcome, _, checks, rfl⟩
  exact ⟨earlier, look, waits, check, rest, by simp, looks, seeks, misses, outdated⟩

theorem find?_of_looks (stepped : moment.machine.step? moment.mover = some after)
    (looks : moment.Looks key index slot) : after.cache.find? key = some slot := by
  obtain ⟨rfl, rfl, fingerprint, outcome, there⟩ := looks
  obtain ⟨call, phase, lock', phase', cache', moves, move, rfl⟩ := step?_eq_some_iff.mp stepped
  cases there.symm.trans moves
  generalize moment.machine.listLock = lock at move
  cases move with
  | seek => rw [Cache.slotFor_find?, if_pos rfl]
  | find fetches => cases fetches
  | glance glances => cases glances

theorem restart?_eq_some_iff :
    moment.restart? index = some slot ↔
      moment.mover = index ∧ moment.machine.IsOutdated index slot := by
  unfold Moment.restart? IsOutdated
  constructor
  · intro restarts
    split at restarts
    · next found =>
        obtain ⟨mover, same⟩ := Option.ite_none_right_eq_some.mp restarts
        cases same
        exact ⟨mover, _, found⟩
    · cases restarts
  · intro given
    obtain ⟨mover, call, found⟩ := given
    simp [found, mover]

theorem Lost.retired (lost : Lost key index slot front back machine) : machine.cache.Retired slot := by
  obtain ⟨_, _, _, _, _, _, _, _, _, _, _, retired⟩ := lost
  exact retired

theorem Lost.departs (lost : Lost key index slot front back machine) :
    ∃ departure ∈ front, departure.machine.Seeks key index slot ∧ departure.Departs key slot := by
  obtain ⟨_, _, _, departure, _, _, _, rfl, round, departs, _⟩ := lost
  exact ⟨departure, by simp, round.seeks departure (by simp), departs⟩

/-- Each time that a call starts over it has lost the slot that it had looked up. -/
theorem Run.lost (run : Run (.start cache calls) past machine) (listed : cache.Listed)
    (asked : calls[index]? = some (.obtain key fingerprint outcome))
    (split : past = front ++ moment :: back) (restarts : moment.restart? index = some slot) :
    Lost key index slot front (moment :: back) machine := by
  obtain ⟨_, outdated⟩ := restart?_eq_some_iff.mp restarts
  obtain ⟨earlier, look, waits, check, rest, rfl, round⟩ := (run.cut split).round asked outdated
  -- From the lookup, which finds the slot listed, to the check, which does not.
  have untilCheck : past = (earlier ++ look :: waits) ++ check :: (rest ++ moment :: back) := by
    simpa using split
  have checked := run.cut untilCheck
  have looked := (checked.cut rfl).reachable.listed listed
  obtain ⟨next, stepped, between⟩ := checked.rest rfl
  obtain ⟨waits, departure, gone, rfl, departs⟩ := between.departs
    (Reachable.listed (.step .refl ⟨_, stepped⟩) looked) (find?_of_looks stepped round.looks)
    round.misses.2.1
  have whole : past = (earlier ++ look :: waits) ++ departure ::
      (gone ++ check :: (rest ++ moment :: back)) := by simpa using split
  have left := (run.cut whole).reachable.listed listed
  obtain ⟨after, stepped, later⟩ := run.rest whole
  obtain ⟨since, now⟩ := later.retired (Reachable.listed (.step .refl ⟨_, stepped⟩) left)
    (retired_of_departs left departs stepped)
  exact ⟨earlier, look, waits, departure, gone, check, rest, by simp, round, departs, since, now⟩

theorem Run.lost_of_mem_restarts (run : Run (.start cache calls) past machine) (listed : cache.Listed)
    (asked : calls[index]? = some (.obtain key fingerprint outcome))
    (member : slot ∈ restarts index past) :
    ∃ front back, past = front ++ back ∧ Lost key index slot front back machine := by
  obtain ⟨moment, there, restarts⟩ := List.mem_filterMap.mp member
  obtain ⟨front, back, split⟩ := List.append_of_mem there
  exact ⟨front, moment :: back, split, run.lost listed asked split restarts⟩

/-! ## No slot twice -/

theorem mem_restarts_concat (member : slot ∈ restarts index (past ++ [moment])) :
    slot ∈ restarts index past ∨ moment.restart? index = some slot := by
  simpa [restarts, List.filterMap_append, List.mem_filterMap] using member

/-- A caller that tries a slot has not started over for it before. -/
theorem Run.not_mem_restarts (run : Run (.start cache calls) past machine) (listed : cache.Listed)
    (asked : calls[index]? = some (.obtain key fingerprint outcome)) {call : Call L} {phase : Phase L}
    (found : machine.callers[index]? = some ⟨call, phase⟩) (tries : phase.tries? = some slot) :
    slot ∉ restarts index past := by
  induction run generalizing call phase with
  | start =>
      cases start_phase found
      cases tries
  | @step past before after mover run stepped ih =>
      intro member
      rcases caller_of_step? stepped found with ⟨other, there⟩ | ⟨rfl, reached, there, move⟩
      · rcases mem_restarts_concat member with earlier | now
        · exact ih there tries earlier
        · exact other (restart?_eq_some_iff.mp now).1
      · cases (call_of_callers run.reachable.calls_eq there).symm.trans asked
        rcases mem_restarts_concat member with earlier | now
        · rcases move.tries tries with tried | ⟨_, obtained⟩
          · exact ih there tried earlier
          · obtain ⟨_, _, _, lost⟩ := run.lost_of_mem_restarts listed asked earlier
            exact lost.retired.slotFor_ne key obtained
        · -- The step itself lets go of the slot, and its caller tries none any more.
          obtain ⟨_, _, outdated⟩ := restart?_eq_some_iff.mp now
          cases there.symm.trans outdated
          cases move.of_outdated
          cases tries

theorem Run.nodup_restarts (run : Run (.start cache calls) past machine) (listed : cache.Listed)
    (asked : calls[index]? = some (.obtain key fingerprint outcome)) : (restarts index past).Nodup := by
  induction run with
  | start => exact List.nodup_nil
  | @step past before after mover run stepped ih =>
      simp only [restarts, List.filterMap_append] at ih ⊢
      cases now : Moment.restart? index ⟨mover, before⟩ with
      | none => simpa [now] using ih
      | some slot =>
          obtain ⟨_, call, outdated⟩ := restart?_eq_some_iff.mp now
          have fresh : slot ∉ past.filterMap (Moment.restart? index) :=
            run.not_mem_restarts listed asked outdated rfl
          simpa [now] using ih.concat fresh

/-! ## How often -/

theorem Seeks.underway (seeks : machine.Seeks key index slot) : machine.Underway index := by
  obtain ⟨_, _, phase, found, seeks⟩ := seeks
  refine ⟨_, found, ?_⟩
  rcases Phase.seeks?_eq_some_iff.mp seeks with rfl | rfl | rfl <;> exact ⟨nofun, rfl⟩

theorem Run.departs_of_mem_restarts (run : Run (.start cache calls) past machine) (listed : cache.Listed)
    (asked : calls[index]? = some (.obtain key fingerprint outcome))
    (member : slot ∈ restarts index past) :
    ∃ departure ∈ past, departure.machine.Seeks key index slot ∧ departure.Departs key slot := by
  obtain ⟨front, back, rfl, lost⟩ := run.lost_of_mem_restarts listed asked member
  obtain ⟨departure, there, seeks, departs⟩ := lost.departs
  exact ⟨departure, List.mem_append_left _ there, seeks, departs⟩

theorem departed_finite (key : String) (index : Nat) (past : List (Moment L)) :
    (departed key index past).Finite := by
  refine (past.filterMap fun moment => moment.machine.cache.find? key).finite_toSet.subset ?_
  rintro slot ⟨moment, member, _, departs⟩
  exact List.mem_filterMap.mpr ⟨moment, member, departs.listed⟩

theorem Run.length_restarts_le (run : Run (.start cache calls) past machine) (listed : cache.Listed)
    (asked : calls[index]? = some (.obtain key fingerprint outcome)) :
    (restarts index past).length ≤ (departed key index past).ncard := by
  rw [← List.toFinset_card_of_nodup (run.nodup_restarts listed asked), ← Set.ncard_coe_finset]
  refine Set.ncard_le_ncard (fun slot member => ?_) (departed_finite key index past)
  obtain ⟨departure, there, seeks, departs⟩ :=
    run.departs_of_mem_restarts listed asked (List.mem_toFinset.mp member)
  exact ⟨departure, there, seeks.underway, departs⟩

/-- Whoever takes a slot off the list is not between a lookup and a check. -/
theorem Seeks.ne_mover (seeks : moment.machine.Seeks key index slot) (departs : moment.Departs key slot) :
    index ≠ moment.mover := by
  rintro rfl
  obtain ⟨_, _, phase, found, seeks⟩ := seeks
  obtain ⟨call, reached, moves, unlisting⟩ := departs.cause
  cases found.symm.trans moves
  cases unlisting <;> cases seeks

theorem Run.restarts_eq_nil (run : Run (.start cache calls) past machine) (listed : cache.Listed)
    (asked : calls[index]? = some (.obtain key fingerprint outcome)) (threaded : SingleThreaded past) :
    restarts index past = [] := by
  refine List.eq_nil_iff_forall_not_mem.mpr fun slot member => ?_
  obtain ⟨departure, there, seeks, departs⟩ := run.departs_of_mem_restarts listed asked member
  have other := seeks.ne_mover departs
  obtain ⟨_, _, phase, found, seeks⟩ := seeks
  obtain ⟨within, here⟩ := List.getElem?_eq_some_iff.mp found
  have outside := threaded departure there index within other
  rw [here] at outside
  rcases Phase.seeks?_eq_some_iff.mp seeks with rfl | rfl | rfl <;> cases outside

end Runs

/-- Each time that a call starts over, the slot that it had looked up was removed, cleared away, discarded
or evicted before its check, and is never listed again.  These slots are different, so that a call starts
over at most as often as slots of its key leave the list while it is under way, and a call of a single
thread never does, whatever its compile calls. -/
theorem restarts_follow_departures (capacity : Option Nat) (failurePolicy : FailurePolicy)
    (calls : List (Call L)) (run : Run (.start (.create capacity failurePolicy) calls) past machine)
    {fingerprint : Fingerprint} {outcome : Except TemplateError (Artifact L)}
    (asked : calls[index]? = some (.obtain key fingerprint outcome)) :
    (∀ front moment back slot, past = front ++ moment :: back → moment.restart? index = some slot →
      Lost key index slot front (moment :: back) machine) ∧
    (restarts index past).Nodup ∧
    (restarts index past).length ≤ (departed key index past).ncard ∧
    (SingleThreaded past → restarts index past = []) ∧
    ∀ session after : Session L, session.acquire key fingerprint ≠ some (.outdated, after) := by
  have listed : (Cache.create capacity failurePolicy : Cache L).Listed :=
    Cache.create_listed capacity failurePolicy
  refine ⟨fun front moment back slot => run.lost listed asked, run.nodup_restarts listed asked,
    run.length_restarts_le listed asked, run.restarts_eq_nil listed asked, ?_⟩
  intro session after outdated
  cases Session.acquires outdated

/-- Two calls compile a page, and the page is removed while the second waits for the first; or one thread
removes and compiles the page anew in the compile of the first. -/
theorem overtaken_restarts :
    (∃ past machine, Run (.start (.create none .retry) overtaken) past machine ∧
      restarts 2 past = [0] ∧ machine.cache.Retired 0 ∧ 1 ≤ (departed "page" 2 past).ncard) ∧
    ∃ past machine, Run (.start (.create none .retry) overtaken) past machine ∧ SingleThreaded past ∧
      (machine.answer? 0).isSome ∧ (machine.answer? 2).isSome ∧ restarts 0 past = [] ∧
      restarts 2 past = [] := by
  have begun : Run (.start (.create none .retry) overtaken) [] (.start (.create none .retry) overtaken) :=
    .start
  constructor
  · let schedule := [0, 0, 0, 0, 0, 0, 2, 2, 1, 1, 1, 0, 0, 0, 0, 0, 2, 2, 2, 2]
    have run := begun.append_moments schedule
    have restarted : restarts 2 (moments (.start (.create none .retry) overtaken) schedule) = [0] := by
      decide +kernel
    obtain ⟨lost, _, bounded, _⟩ := restarts_follow_departures none .retry overtaken run
      (show overtaken[2]? = _ from rfl)
    have member : 0 ∈ restarts 2 (moments (.start (.create none .retry) overtaken) schedule) := by
      simp [restarted]
    obtain ⟨moment, there, restarts⟩ := List.mem_filterMap.mp member
    obtain ⟨front, back, split⟩ := List.append_of_mem there
    rw [List.nil_append, restarted] at bounded
    exact ⟨_, _, run, restarted, (lost front moment back 0 split restarts).retired, bounded⟩
  · let schedule := List.replicate 6 0 ++ List.replicate 3 1 ++ List.replicate 11 2 ++ List.replicate 5 0
    have run := begun.append_moments schedule
    have threaded : SingleThreaded (moments (.start (.create none .retry) overtaken) schedule) := by
      unfold SingleThreaded
      decide +kernel
    obtain ⟨_, _, _, outer, _⟩ := restarts_follow_departures none .retry overtaken run
      (show overtaken[0]? = _ from rfl)
    obtain ⟨_, _, _, inner, _⟩ := restarts_follow_departures none .retry overtaken run
      (show overtaken[2]? = _ from rfl)
    exact ⟨_, _, run, threaded, by decide +kernel, by decide +kernel, outer threaded, inner threaded⟩

end Machine
end Templating
