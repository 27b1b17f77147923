import Templating.Proofs.Cache.Completion
import Templating.Proofs.Cache.Runs

/-!
Callers share one compile.

In a cache without bound from which nothing is taken, all calls on a key that agree on the
fingerprint are answered by the first compile that the cache keeps.  The reason is that a caller
past its check has the slot that is listed for the key, that a slot is compiled for only while it is
vacant, and that what is kept in a listed slot stays there.
-/

namespace Templating

variable {L : Type u}

/-- Calls on the key carry one fingerprint, as do the artifacts that they come to, and no call
takes the key off the list. -/
structure Agreed (calls : List (Call L)) (key : String) (fingerprint : Fingerprint) : Prop where
  fingerprints : ∀ other outcome, .obtain key other outcome ∈ calls → other = fingerprint
  artifacts : ∀ other artifact, .obtain key other (.ok artifact) ∈ calls →
    artifact.fingerprint = fingerprint
  undisturbed : ∀ call ∈ calls, call.unlists key = false

def FailurePolicy.Keeps (failurePolicy : FailurePolicy) (result : Except TemplateError α) : Prop :=
  result.isOk = true ∨ failurePolicy = .remember

def Cache.stored? (cache : Cache L) (key : String) (fingerprint : Fingerprint) :
    Option (Except TemplateError (Shared (Artifact L))) :=
  (cache.find? key).bind fun slot => cache.answer? slot fingerprint

theorem Cache.stored?_eq_some_iff {cache : Cache L} {key : String} {fingerprint : Fingerprint}
    {result : Except TemplateError (Shared (Artifact L))} :
    cache.stored? key fingerprint = some result ↔
      ∃ slot, cache.find? key = some slot ∧ cache.answer? slot fingerprint = some result := by
  simp [stored?, Option.bind_eq_some_iff]

theorem Cache.answer?_of_ready {cache : Cache L} {slot : SlotId} {artifact : Shared (Artifact L)}
    (ready : (cache.slot slot).state = .ready artifact) (fingerprint : Fingerprint) :
    cache.answer? slot fingerprint =
      if artifact.content.fingerprint = fingerprint then some (.ok artifact) else none := by
  simp only [answer?, ready]

theorem Cache.answer?_of_failed {cache : Cache L} {slot : SlotId} {failed : Fingerprint}
    {error : TemplateError} (state : (cache.slot slot).state = .failed failed error)
    (fingerprint : Fingerprint) :
    cache.answer? slot fingerprint =
      if failed = fingerprint ∧ cache.failurePolicy = .remember then some (.error error)
      else none := by
  simp only [answer?, state]

theorem Cache.answer?_of_vacant {cache : Cache L} {slot : SlotId}
    (vacant : (cache.slot slot).state = .vacant) (fingerprint : Fingerprint) :
    cache.answer? slot fingerprint = none := by
  simp [answer?, vacant]

theorem Cache.answer?_congr {cache other : Cache L} {slot : SlotId}
    (state : (other.slot slot).state = (cache.slot slot).state)
    (failurePolicy : other.failurePolicy = cache.failurePolicy) (fingerprint : Fingerprint) :
    other.answer? slot fingerprint = cache.answer? slot fingerprint := by
  simp only [answer?, state, failurePolicy]

/-- What holds of a caller on the key that has reached the point. -/
def Phase.Steady (cache : Cache L) (key : String) (fingerprint : Fingerprint) : Phase L → Prop
  | .reading slot => cache.find? key = some slot
  | .compiling slot | .compiled slot _ =>
      cache.find? key = some slot ∧ (cache.slot slot).state = .vacant
  | .discarding slot _ | .dropping slot _ =>
      cache.failurePolicy = .retry ∧ cache.find? key = some slot ∧
        (cache.slot slot).state = .vacant
  | .publishing slot result =>
      cache.find? key = some slot ∧ cache.answer? slot fingerprint = some result
  | .settled _ result | .counting _ result | .scanning _ result _ =>
      cache.failurePolicy.Keeps result → cache.stored? key fingerprint = some result
  | .leaving _ answer | .done answer =>
      ∃ result compiled, answer = .obtained result compiled ∧
        (cache.failurePolicy.Keeps result → cache.stored? key fingerprint = some result)
  | _ => True

/-- A caller keeps its ground as long as the slot that it holds stays listed and unwritten, and what
is stored for the key stays stored. -/
theorem Phase.Steady.congr {cache cache' : Cache L} {key : String} {fingerprint : Fingerprint}
    {phase : Phase L} (steady : phase.Steady cache key fingerprint)
    (failurePolicy : cache'.failurePolicy = cache.failurePolicy)
    (listed : ∀ slot, phase.holds? = some slot → cache.find? key = some slot →
      cache'.find? key = some slot)
    (state : ∀ slot, phase.holds? = some slot →
      (cache'.slot slot).state = (cache.slot slot).state)
    (stored : ∀ result, cache.stored? key fingerprint = some result →
      cache'.stored? key fingerprint = some result) :
    phase.Steady cache' key fingerprint := by
  cases phase with
  | reading slot => exact listed slot rfl steady
  | compiling slot | compiled slot =>
      exact ⟨listed slot rfl steady.1, (state slot rfl).trans steady.2⟩
  | discarding slot | dropping slot =>
      exact ⟨failurePolicy.trans steady.1, listed slot rfl steady.2.1,
        (state slot rfl).trans steady.2.2⟩
  | publishing slot result =>
      exact ⟨listed slot rfl steady.1,
        (Cache.answer?_congr (state slot rfl) failurePolicy fingerprint).trans steady.2⟩
  | settled slot result | counting slot result | scanning slot result scan =>
      exact fun keeps => stored _ (steady (failurePolicy ▸ keeps))
  | leaving slot answer | done answer =>
      obtain ⟨result, compiled, same, kept⟩ := steady
      exact ⟨result, compiled, same, fun keeps => stored _ (kept (failurePolicy ▸ keeps))⟩
  | _ => trivial

namespace Machine

structure Steady (calls : List (Call L)) (key : String) (fingerprint : Fingerprint)
    (machine : Machine L) : Prop where
  exclusive : machine.Exclusive
  explained : ∃ owner, machine.Explained calls owner
  boundless : machine.cache.capacity = none
  callers : ∀ (index : Nat) other outcome (phase : Phase L),
    machine.callers[index]? = some ⟨.obtain key other outcome, phase⟩ →
    phase.Steady machine.cache key fingerprint

section Step

variable {index : Nat} {cache cache' : Cache L} {call : Call L} {lock lock' : Option Nat}
  {phase phase' : Phase L} {callers : List (Caller L)} {calls : List (Call L)} {key : String}
  {fingerprint : Fingerprint} {slot : SlotId}

theorem Steady.quiet (steady : Steady calls key fingerprint ⟨cache, callers, lock⟩)
    (agreed : Agreed calls key fingerprint) (found : callers[index]? = some ⟨call, phase⟩) :
    call.unlists key = false := by
  obtain ⟨owner, explained⟩ := steady.explained
  exact agreed.undisturbed _ (explained.callers _ (List.mem_of_getElem? found)).1

theorem Steady.find?_of_move (steady : Steady calls key fingerprint ⟨cache, callers, lock⟩)
    (agreed : Agreed calls key fingerprint) (found : callers[index]? = some ⟨call, phase⟩)
    (move : Move index cache call lock phase lock' phase' cache')
    (listed : cache.find? key = some slot)
    (kept : ∀ other outcome error, call = .obtain key other outcome → phase ≠ .dropping slot error) :
    cache'.find? key = some slot := by
  obtain ⟨owner, explained⟩ := steady.explained
  rcases move.find?_of_some explained.owned.listed listed with still | ⟨_, unlisting⟩
  · exact still
  · cases unlisting with
    | asked unlists => simp [steady.quiet agreed found] at unlists
    | dropped => exact (kept _ _ _ rfl rfl).elim
    | evicted bound => cases bound.symm.trans steady.boundless

theorem Steady.call_of_compiled (steady : Steady calls key fingerprint ⟨cache, callers, lock⟩)
    {outcome : Except TemplateError (Artifact L)}
    (found : callers[index]? = some ⟨call, .compiled slot outcome⟩)
    (listed : cache.find? key = some slot) :
    ∃ other result, call = .obtain key other result := by
  obtain ⟨owner, explained⟩ := steady.explained
  have member := List.mem_of_getElem? found
  have obtains := steady.exclusive.proper _ member rfl
  have mine := (explained.owned.callers _ member slot rfl).2
  rw [explained.owned.key_of_find? listed] at mine
  cases call with
  | obtain other =>
      cases mine
      exact ⟨_, _, rfl⟩
  | _ => simp [Call.obtains] at obtains

theorem Steady.stored_of_move (steady : Steady calls key fingerprint ⟨cache, callers, lock⟩)
    (agreed : Agreed calls key fingerprint) (found : callers[index]? = some ⟨call, phase⟩)
    (move : Move index cache call lock phase lock' phase' cache')
    {result : Except TemplateError (Shared (Artifact L))}
    (stored : cache.stored? key fingerprint = some result) :
    cache'.stored? key fingerprint = some result := by
  obtain ⟨slot, listed, answer⟩ := Cache.stored?_eq_some_iff.mp stored
  have filled : (cache.slot slot).state ≠ .vacant := by
    intro vacant
    cases answer.symm.trans (Cache.answer?_of_vacant vacant fingerprint)
  refine Cache.stored?_eq_some_iff.mpr ⟨slot, ?_, ?_⟩
  · refine steady.find?_of_move agreed found move listed ?_
    intro other outcome error isCall isPhase
    subst isCall
    subst isPhase
    exact filled (steady.callers _ _ _ _ found).2.2
  · refine (Cache.answer?_congr (move.slot_state_eq slot ?_) move.config_eq.2 _).trans answer
    intro outcome same
    subst same
    obtain ⟨other, result, rfl⟩ := steady.call_of_compiled found listed
    exact filled (steady.callers _ _ _ _ found).2

theorem Steady.stored_cases (steady : Steady calls key fingerprint ⟨cache, callers, lock⟩)
    (found : callers[index]? = some ⟨call, phase⟩)
    (move : Move index cache call lock phase lock' phase' cache')
    {result : Except TemplateError (Shared (Artifact L))}
    (stored : cache'.stored? key fingerprint = some result) :
    cache.stored? key fingerprint = some result ∨
      ∃ other outcome slot, call = .obtain key other outcome ∧
        phase = .compiled slot (result.map Shared.content) := by
  obtain ⟨owner, explained⟩ := steady.explained
  obtain ⟨slot, listed, answer⟩ := Cache.stored?_eq_some_iff.mp stored
  by_cases compiled : ∃ outcome, phase = .compiled slot outcome
  · obtain ⟨outcome, rfl⟩ := compiled
    have within := (explained.owned.callers _ (List.mem_of_getElem? found) slot rfl).1
    obtain ⟨other, own, rfl⟩ : ∃ other own, call = .obtain key other own := by
      have before : cache.find? key = some slot := by
        cases move <;> exact listed
      exact steady.call_of_compiled found before
    cases move with
    | store =>
        rw [Cache.answer?_of_ready (Cache.slot_write_state_self _ (by exact within))] at answer
        cases (Option.ite_none_right_eq_some.mp answer).2
        exact .inr ⟨_, _, _, rfl, rfl⟩
    | remember policy =>
        rw [Cache.answer?_of_failed (Cache.slot_write_state_self _ within)] at answer
        cases (Option.ite_none_right_eq_some.mp answer).2
        exact .inr ⟨_, _, _, rfl, rfl⟩
    | reject | keep => exact .inl stored
  · have state := move.slot_state_eq slot fun outcome same => compiled ⟨outcome, same⟩
    rw [Cache.answer?_congr state move.config_eq.2] at answer
    left
    refine Cache.stored?_eq_some_iff.mpr ⟨slot, ?_, answer⟩
    cases before : cache.find? key with
    | some first =>
        rcases move.find?_of_some explained.owned.listed before with still | ⟨gone, _⟩
        · exact still.symm.trans listed
        · cases gone.symm.trans listed
    | none =>
        rcases move.find?_of_none explained.owned.listed before with still | ⟨_, _, _, _, made⟩
        · cases still.symm.trans listed
        · cases made.symm.trans listed
          have vacant : (cache.slot cache.slots.size).state = .vacant := by
            rw [Cache.slot_of_size_le (Nat.le_refl _)]
          cases answer.symm.trans (Cache.answer?_of_vacant vacant fingerprint)

theorem Steady.vacant_of_unanswered (steady : Steady calls key fingerprint ⟨cache, callers, lock⟩)
    (agreed : Agreed calls key fingerprint) (listed : cache.find? key = some slot)
    (unanswered : cache.answer? slot fingerprint = none) :
    (cache.slot slot).state = .vacant := by
  obtain ⟨owner, explained⟩ := steady.explained
  have recorded := explained.slots slot
  rw [explained.owned.key_of_find? listed] at recorded
  cases state : (cache.slot slot).state with
  | vacant => rfl
  | ready artifact =>
      rw [state] at recorded
      obtain ⟨other, member⟩ := recorded
      rw [Cache.answer?_of_ready state, if_pos (agreed.artifacts _ _ member)] at unanswered
      contradiction
  | failed failed error =>
      rw [state] at recorded
      obtain ⟨policy, member⟩ := recorded
      rw [Cache.answer?_of_failed state, if_pos ⟨agreed.fingerprints _ _ member, policy⟩]
        at unanswered
      contradiction

theorem Steady.mover (steady : Steady calls key fingerprint ⟨cache, callers, lock⟩)
    (agreed : Agreed calls key fingerprint) {other : Fingerprint}
    {outcome : Except TemplateError (Artifact L)}
    (found : callers[index]? = some ⟨.obtain key other outcome, phase⟩)
    (move : Move index cache (.obtain key other outcome) lock phase lock' phase' cache') :
    phase'.Steady cache' key fingerprint := by
  obtain ⟨owner, explained⟩ := steady.explained
  have member := List.mem_of_getElem? found
  obtain ⟨asked, justified⟩ := explained.callers _ member
  obtain rfl := agreed.fingerprints _ _ asked
  have mine := steady.callers _ _ _ _ found
  have samePolicy := move.config_eq.2
  cases move with
  | pass current => exact Cache.isCurrent_iff.mp current
  | read reads =>
      obtain ⟨result, answer, rfl⟩ := answer?_of_read reads
      exact ⟨result, false, rfl, fun _ => Cache.stored?_eq_some_iff.mpr ⟨_, mine, answer⟩⟩
  | begin unanswered => exact ⟨mine, steady.vacant_of_unanswered agreed mine unanswered⟩
  | compile => exact mine
  | store =>
      have within := (explained.owned.callers _ member _ rfl).1
      cases justified
      refine ⟨mine.1, ?_⟩
      rw [Cache.answer?_of_ready (Cache.slot_write_state_self _ (by exact within)),
        if_pos (agreed.artifacts _ _ asked)]
  | remember policy =>
      have within := (explained.owned.callers _ member _ rfl).1
      refine ⟨mine.1, ?_⟩
      rw [Cache.answer?_of_failed (Cache.slot_write_state_self _ within), if_pos ⟨rfl, policy⟩]
  | reject policy => exact ⟨policy, mine⟩
  | keep policy filled => exact (filled mine.2).elim
  | publish =>
      refine fun _ => Cache.stored?_eq_some_iff.mpr ⟨_, mine.1, ?_⟩
      exact (Cache.answer?_congr (Cache.slot_publish_state cache _ _) rfl other).trans mine.2
  | retract => exact mine
  | drop =>
      intro keeps
      rw [samePolicy, FailurePolicy.Keeps, mine.1] at keeps
      simp [Except.isOk, Except.toBool] at keeps
  | unbounded | scanned => exact ⟨_, true, rfl, mine⟩
  | bounded bound | scan bound => cases bound.symm.trans steady.boundless
  | count => exact mine
  | leave => exact mine
  | report => exact justified.elim
  | find fetches => cases fetches
  | glance glances => cases glances
  | fetch free plain => simp [Call.obtains] at plain
  | _ => trivial

theorem Steady.other (steady : Steady calls key fingerprint ⟨cache, callers, lock⟩)
    (agreed : Agreed calls key fingerprint) (found : callers[index]? = some ⟨call, phase⟩)
    (move : Move index cache call lock phase lock' phase' cache') {waiter : Nat}
    {other : Fingerprint} {outcome : Except TemplateError (Artifact L)} {point : Phase L}
    (different : waiter ≠ index)
    (there : callers[waiter]? = some ⟨.obtain key other outcome, point⟩) :
    point.Steady cache' key fingerprint := by
  -- Two callers never hold one slot, so that the mover neither drops nor writes this one's.
  have alone {slot : SlotId} (theirs : point.holds? = some slot) : phase.holds? ≠ some slot := by
    intro mine
    exact different (steady.exclusive.single waiter index slot ⟨_, there, theirs⟩ ⟨_, found, mine⟩)
  refine (steady.callers _ _ _ _ there).congr move.config_eq.2 ?_ ?_
    fun _ => steady.stored_of_move agreed found move
  · intro slot holds listed
    refine steady.find?_of_move agreed found move listed ?_
    intro _ _ error _ same
    subst same
    exact alone holds rfl
  · intro slot holds
    refine move.slot_state_eq slot ?_
    intro result same
    subst same
    exact alone holds rfl

end Step

theorem start_steady {key : String} {fingerprint : Fingerprint} (failurePolicy : FailurePolicy)
    (calls : List (Call L)) :
    (start (.create none failurePolicy) calls).Steady calls key fingerprint where
  exclusive := start_exclusive rfl calls
  explained := ⟨fun _ => key, start_explained none failurePolicy _ calls⟩
  boundless := rfl
  callers := by
    intro index other outcome phase found
    obtain ⟨_, _, same⟩ := List.mem_map.mp (List.mem_of_getElem? found)
    cases same
    trivial

theorem Steady.step {calls : List (Call L)} {key : String} {fingerprint : Fingerprint}
    {before after : Machine L} {index : Nat} (steady : before.Steady calls key fingerprint)
    (agreed : Agreed calls key fingerprint) (stepped : before.step? index = some after) :
    after.Steady calls key fingerprint := by
  obtain ⟨owner, explained⟩ := steady.explained
  have explained' := explained.step stepped
  have exclusive' := steady.exclusive.step stepped
  obtain ⟨call, phase, lock', phase', cache', found, move, rfl⟩ := step?_eq_some_iff.mp stepped
  refine ⟨exclusive', explained', move.config_eq.1.trans steady.boundless, ?_⟩
  intro other fingerprint' outcome point there
  by_cases same : other = index
  · subst other
    have within := (List.getElem?_eq_some_iff.mp found).1
    simp only [List.getElem?_set_self within, Option.some.injEq, Caller.mk.injEq] at there
    obtain ⟨rfl, rfl⟩ := there
    exact steady.mover agreed found move
  · rw [List.getElem?_set_ne (Ne.symm same)] at there
    exact steady.other agreed found move same there

end Machine

/-! ## What the past of a run tells -/

def Machine.Stores (machine : Machine L) (key : String) (outcome : Except TemplateError (Artifact L)) :
    Prop :=
  ∃ (index : Nat) (fingerprint : Fingerprint) (own : Except TemplateError (Artifact L))
    (slot : SlotId),
    machine.callers[index]? = some ⟨.obtain key fingerprint own, .compiled slot outcome⟩

/-- The moments of a run account for what its machine has compiled for the key and stored. -/
structure Recounts (key : String) (fingerprint : Fingerprint) (past : List (Moment L))
    (machine : Machine L) : Prop where
  /-- What was compiled and is kept is about to be stored or is stored. -/
  kept : ∀ moment ∈ past, ∀ outcome, moment.outcome? key = some outcome →
    machine.cache.failurePolicy.Keeps outcome →
    machine.Stores key outcome ∨
      ∃ result, machine.cache.stored? key fingerprint = some result ∧
        result.map Shared.content = outcome
  compiled : ∀ outcome, machine.Stores key outcome →
    ∃ moment ∈ past, moment.outcome? key = some outcome
  stored : ∀ result, machine.cache.stored? key fingerprint = some result →
    ∃ moment ∈ past, moment.outcome? key = some (result.map Shared.content)
  /-- Where failures are remembered, what was begun runs or has come to its end. -/
  begun : machine.cache.failurePolicy = .remember → ∀ moment ∈ past, moment.begins key = true →
    (∃ index, (machine.compiling? key index).isSome) ∨
      ∃ moment ∈ past, (moment.outcome? key).isSome

theorem start_recounts {key : String} {fingerprint : Fingerprint} (failurePolicy : FailurePolicy)
    (calls : List (Call L)) :
    Recounts key fingerprint [] (.start (.create none failurePolicy) calls) where
  kept := fun _ member => (List.not_mem_nil member).elim
  compiled := by
    intro outcome given
    obtain ⟨index, other, own, slot, found⟩ := given
    obtain ⟨_, _, same⟩ := List.mem_map.mp (List.mem_of_getElem? found)
    cases same
  stored := by
    intro result stored
    cases stored
  begun := fun _ _ member => (List.not_mem_nil member).elim

section Recount

variable {index : Nat} {cache cache' : Cache L} {call : Call L} {lock lock' : Option Nat}
  {phase phase' : Phase L} {callers : List (Caller L)} {calls : List (Call L)} {key : String}
  {fingerprint : Fingerprint} {past : List (Moment L)}

theorem Machine.Steady.stores (steady : Machine.Steady calls key fingerprint ⟨cache, callers, lock⟩)
    (agreed : Agreed calls key fingerprint) {outcome : Except TemplateError (Artifact L)}
    (stores : Machine.Stores ⟨cache, callers, lock⟩ key outcome)
    (keeps : cache.failurePolicy.Keeps outcome) (found : callers[index]? = some ⟨call, phase⟩)
    (move : Move index cache call lock phase lock' phase' cache') :
    Machine.Stores ⟨cache', callers.set index ⟨call, phase'⟩, lock'⟩ key outcome ∨
      ∃ result, cache'.stored? key fingerprint = some result ∧
        result.map Shared.content = outcome := by
  obtain ⟨other, fingerprint', own, slot, there⟩ := stores
  by_cases same : other = index
  · subst other
    cases there.symm.trans found
    have next := steady.mover agreed found move
    cases move with
    | store =>
        exact .inr ⟨_, Cache.stored?_eq_some_iff.mpr ⟨slot, next⟩, rfl⟩
    | remember =>
        exact .inr ⟨_, Cache.stored?_eq_some_iff.mpr ⟨slot, next⟩, rfl⟩
    | reject policy | keep policy =>
        rw [FailurePolicy.Keeps, policy] at keeps
        simp [Except.isOk, Except.toBool] at keeps
  · exact .inl ⟨other, fingerprint', own, slot,
      (List.getElem?_set_ne (Ne.symm same)).trans there⟩

theorem Recounts.step (recounts : Recounts key fingerprint past ⟨cache, callers, lock⟩)
    (steady : Machine.Steady calls key fingerprint ⟨cache, callers, lock⟩)
    (agreed : Agreed calls key fingerprint)
    (found : callers[index]? = some ⟨call, phase⟩)
    (move : Move index cache call lock phase lock' phase' cache') :
    Recounts key fingerprint (past ++ [⟨index, ⟨cache, callers, lock⟩⟩])
      ⟨cache', callers.set index ⟨call, phase'⟩, lock'⟩ := by
  have within := (List.getElem?_eq_some_iff.mp found).1
  refine ⟨?kept, ?compiled, ?stored, ?begun⟩
  case kept =>
    intro moment member outcome ends keeps
    rcases List.mem_append.mp member with old | new
    · rw [move.config_eq.2] at keeps
      rcases recounts.kept moment old outcome ends keeps with stores | ⟨result, stored, rfl⟩
      · exact steady.stores agreed stores keeps found move
      · exact .inr ⟨result, steady.stored_of_move agreed found move stored, rfl⟩
    · cases List.mem_singleton.mp new
      obtain ⟨other, slot, compiles⟩ := Machine.compiling?_eq_some_iff.mp ends
      cases found.symm.trans compiles
      cases move with
      | compile => exact .inl ⟨index, other, outcome, slot, by simp [within]⟩
  case compiled =>
    intro outcome given
    obtain ⟨other, fingerprint', own, slot, there⟩ := given
    by_cases same : other = index
    · subst other
      simp only [List.getElem?_set_self within, Option.some.injEq, Caller.mk.injEq] at there
      obtain ⟨rfl, rfl⟩ := there
      cases move with
      | compile =>
          refine ⟨_, List.mem_append_right _ (List.mem_singleton_self _), ?_⟩
          exact Machine.compiling?_eq_some_iff.mpr ⟨_, _, found⟩
    · rw [List.getElem?_set_ne (Ne.symm same)] at there
      obtain ⟨moment, member, ends⟩ := recounts.compiled outcome ⟨other, _, _, _, there⟩
      exact ⟨moment, List.mem_append_left _ member, ends⟩
  case stored =>
    intro result stored
    rcases steady.stored_cases found move stored with before | ⟨other, own, slot, rfl, rfl⟩
    · obtain ⟨moment, member, ends⟩ := recounts.stored result before
      exact ⟨moment, List.mem_append_left _ member, ends⟩
    · obtain ⟨moment, member, ends⟩ := recounts.compiled _ ⟨index, _, _, _, found⟩
      exact ⟨moment, List.mem_append_left _ member, ends⟩
  case begun =>
    intro policy moment member begins
    rcases List.mem_append.mp member with old | new
    · rcases recounts.begun (move.config_eq.2.symm.trans policy) moment old begins with
        ⟨other, compiles⟩ | ⟨ended, before, ends⟩
      · by_cases same : other = index
        · subst other
          exact .inr ⟨_, List.mem_append_right _ (List.mem_singleton_self _), compiles⟩
        · refine .inl ⟨other, ?_⟩
          simpa [Machine.compiling?, List.getElem?_set_ne (Ne.symm same)] using compiles
      · exact .inr ⟨ended, List.mem_append_left _ before, ends⟩
    · cases List.mem_singleton.mp new
      have stepped : (⟨cache, callers, lock⟩ : Machine L).step? index =
          some ⟨cache', callers.set index ⟨call, phase'⟩, lock'⟩ :=
        Machine.step?_eq_some_iff.mpr ⟨call, phase, lock', phase', cache', found, move, rfl⟩
      simp only [Moment.begins, stepped, Option.any_some, Bool.and_eq_true] at begins
      exact .inl ⟨index, begins.2⟩

end Recount

section Past

variable {machine : Machine L} {calls : List (Call L)} {key : String} {fingerprint : Fingerprint}
  {past : List (Moment L)} {index : Nat} {phase : Phase L} {own : Except TemplateError (Artifact L)}

def Phase.Compiles (cache : Cache L) (fingerprint : Fingerprint) (slot : SlotId) (phase : Phase L) :
    Prop :=
  phase = .compiling slot ∨ phase = .reading slot ∧ cache.answer? slot fingerprint = none

theorem Machine.Steady.of_compiles (steady : machine.Steady calls key fingerprint)
    (agreed : Agreed calls key fingerprint) {other : Fingerprint} {slot : SlotId}
    (found : machine.callers[index]? = some ⟨.obtain key other own, phase⟩)
    (compiles : phase.Compiles machine.cache other slot) :
    machine.Holds index slot ∧ machine.cache.find? key = some slot ∧
      (machine.cache.slot slot).state = .vacant := by
  obtain ⟨owner, explained⟩ := steady.explained
  have mine := steady.callers _ _ _ _ found
  have member := (explained.callers _ (List.mem_of_getElem? found)).1
  obtain rfl := agreed.fingerprints _ _ member
  rcases compiles with rfl | ⟨rfl, unanswered⟩
  · exact ⟨⟨_, found, rfl⟩, mine⟩
  · exact ⟨⟨_, found, rfl⟩, mine, steady.vacant_of_unanswered agreed mine unanswered⟩

theorem Recounts.not_keeps (recounts : Recounts key fingerprint past machine)
    (steady : machine.Steady calls key fingerprint) (agreed : Agreed calls key fingerprint)
    {other : Fingerprint} {slot : SlotId}
    (found : machine.callers[index]? = some ⟨.obtain key other own, phase⟩)
    (compiles : phase.Compiles machine.cache other slot) {moment : Moment L}
    (member : moment ∈ past) {outcome : Except TemplateError (Artifact L)}
    (ends : moment.outcome? key = some outcome) :
    ¬ machine.cache.failurePolicy.Keeps outcome := by
  intro keeps
  obtain ⟨mine, listed, vacant⟩ := steady.of_compiles agreed found compiles
  rcases recounts.kept moment member outcome ends keeps with
    ⟨storer, _, _, _, there⟩ | ⟨result, stored, _⟩
  · have theirs := (steady.callers _ _ _ _ there).1
    cases listed.symm.trans theirs
    cases steady.exclusive.single storer index slot ⟨_, there, rfl⟩ mine
    cases there.symm.trans found
    rcases compiles with same | ⟨same, _⟩ <;> cases same
  · obtain ⟨_, theirs, answer⟩ := Cache.stored?_eq_some_iff.mp stored
    cases listed.symm.trans theirs
    cases answer.symm.trans (Cache.answer?_of_vacant vacant fingerprint)

theorem Recounts.not_begins (recounts : Recounts key fingerprint past machine)
    (steady : machine.Steady calls key fingerprint) (agreed : Agreed calls key fingerprint)
    (policy : machine.cache.failurePolicy = .remember) {other : Fingerprint} {slot : SlotId}
    (found : machine.callers[index]? = some ⟨.obtain key other own, .reading slot⟩)
    (unanswered : machine.cache.answer? slot other = none) {moment : Moment L}
    (member : moment ∈ past) : moment.begins key = false := by
  by_contra begins
  have compiles : (Phase.reading slot).Compiles machine.cache other slot := .inr ⟨rfl, unanswered⟩
  rcases recounts.begun policy moment member (by simpa using begins) with
    ⟨runner, runs⟩ | ⟨ended, before, ends⟩
  · obtain ⟨_, mine⟩ := Option.isSome_iff_exists.mp runs
    obtain ⟨_, slot', there⟩ := Machine.compiling?_eq_some_iff.mp mine
    have theirs := (steady.callers _ _ _ _ there).1
    obtain ⟨holds, listed, _⟩ := steady.of_compiles agreed found compiles
    cases listed.symm.trans theirs
    cases steady.exclusive.single runner index slot ⟨_, there, rfl⟩ holds
    cases there.symm.trans found
  · obtain ⟨_, outcome⟩ := Option.isSome_iff_exists.mp ends
    exact recounts.not_keeps steady agreed found compiles before outcome (.inr policy)

end Past

namespace Machine

variable {calls : List (Call L)} {key : String} {fingerprint : Fingerprint}
  {failurePolicy : FailurePolicy} {past : List (Moment L)} {machine : Machine L}

theorem Run.steady (agreed : Agreed calls key fingerprint)
    (run : Run (.start (.create none failurePolicy) calls) past machine) :
    machine.Steady calls key fingerprint ∧ Recounts key fingerprint past machine ∧
      machine.cache.failurePolicy = failurePolicy := by
  induction run with
  | start => exact ⟨start_steady failurePolicy calls, start_recounts failurePolicy calls, rfl⟩
  | step _ stepped ih =>
      obtain ⟨steady, recounts, policy⟩ := ih
      have steady' := steady.step agreed stepped
      obtain ⟨call, phase, lock', phase', cache', found, move, rfl⟩ := step?_eq_some_iff.mp stepped
      exact ⟨steady', recounts.step steady agreed found move, move.config_eq.2.trans policy⟩

/-- A compile that ends or begins has had none before it that the cache keeps. -/
theorem Run.fresh {index : Nat} (agreed : Agreed calls key fingerprint)
    (run : Run (.start (.create none failurePolicy) calls) past machine) {after : Machine L}
    (stepped : machine.step? index = some after)
    (compiles : Moment.begins key ⟨index, machine⟩ = true ∨
      (Moment.outcome? key ⟨index, machine⟩).isSome) :
    ∀ moment ∈ past, moment.succeeds key = false := by
  obtain ⟨steady, recounts, _⟩ := run.steady agreed
  have found : ∃ other own phase slot,
      machine.callers[index]? = some ⟨.obtain key other own, phase⟩ ∧
        phase.Compiles machine.cache other slot := by
    rcases compiles with begins | ends
    · obtain ⟨other, own, slot, found, unanswered⟩ := (Moment.begins_iff stepped).mp begins
      exact ⟨other, own, _, slot, found, .inr ⟨rfl, unanswered⟩⟩
    · obtain ⟨own, outcome⟩ := Option.isSome_iff_exists.mp ends
      obtain ⟨other, slot, found⟩ := compiling?_eq_some_iff.mp outcome
      exact ⟨other, own, _, slot, found, .inl rfl⟩
  obtain ⟨other, own, phase, slot, found, compiles⟩ := found
  intro moment member
  cases ends : moment.outcome? key with
  | none => simp [Moment.succeeds, ends]
  | some outcome =>
      have lost := recounts.not_keeps steady agreed found compiles member ends
      simp only [FailurePolicy.Keeps, not_or, Bool.not_eq_true] at lost
      simpa [Moment.succeeds, ends] using lost.1

theorem Run.succeeds_at_most_once (agreed : Agreed calls key fingerprint)
    (run : Run (.start (.create none failurePolicy) calls) past machine) :
    past.countP (Moment.succeeds key) ≤ 1 := by
  induction run with
  | start => simp
  | @step past before after index run stepped ih =>
      rw [List.countP_append, List.countP_singleton]
      split
      · next succeeds =>
          have ends : (Moment.outcome? key ⟨index, before⟩).isSome := by
            simp only [Moment.succeeds, Option.any_eq_true] at succeeds
            obtain ⟨outcome, ends, _⟩ := succeeds
            simp [ends]
          have none : past.countP (Moment.succeeds key) = 0 :=
            List.countP_eq_zero.mpr fun moment member => by
              simp [run.fresh agreed stepped (.inr ends) moment member]
          omega
      · exact ih

theorem Run.over_after_success (agreed : Agreed calls key fingerprint)
    (run : Run (.start (.create none failurePolicy) calls) past machine)
    {front back : List (Moment L)} {moment : Moment L} (split : past = front ++ moment :: back)
    (succeeds : moment.succeeds key = true) :
    ∀ later ∈ back, later.begins key = false ∧ later.outcome? key = none := by
  induction run generalizing back with
  | start => simp at split
  | @step past before after index run stepped ih =>
      rcases List.eq_nil_or_concat back with rfl | ⟨back, last, rfl⟩
      · simp
      · rw [List.concat_eq_append, ← List.cons_append, ← List.append_assoc] at split
        obtain ⟨before, new⟩ := List.append_inj' split rfl
        cases new
        intro later member
        rcases List.mem_append.mp (List.concat_eq_append ▸ member) with old | here
        · exact ih before later old
        · cases List.mem_singleton.mp here
          have member : moment ∈ past := by simp [before]
          constructor
          · by_contra begins
            have fresh := run.fresh agreed stepped (.inl (by simpa using begins)) moment member
            cases fresh.symm.trans succeeds
          · by_contra ends
            have fresh := run.fresh agreed stepped
              (.inr (Option.isSome_iff_ne_none.mpr ends)) moment member
            cases fresh.symm.trans succeeds

theorem Run.begins_at_most_once (agreed : Agreed calls key fingerprint)
    (run : Run (.start (.create none .remember) calls) past machine) :
    past.countP (Moment.begins key) ≤ 1 := by
  induction run with
  | start => simp
  | @step past before after index run stepped ih =>
      rw [List.countP_append, List.countP_singleton]
      split
      · next begins =>
          obtain ⟨steady, recounts, policy⟩ := run.steady agreed
          obtain ⟨other, own, slot, found, unanswered⟩ := (Moment.begins_iff stepped).mp begins
          have none : past.countP (Moment.begins key) = 0 :=
            List.countP_eq_zero.mpr fun moment member => by
              simp [recounts.not_begins steady agreed policy found unanswered member]
          omega
      · exact ih

/-- The compiles for a key in a run, and what the callers on the key are answered. -/
structure OneCompile (failurePolicy : FailurePolicy) (calls : List (Call L)) (key : String)
    (past : List (Moment L)) (machine : Machine L) : Prop where
  success : past.countP (Moment.succeeds key) ≤ 1
  /-- After a success no compile begins, and none that has begun is still to end. -/
  closed : ∀ front moment back, past = front ++ moment :: back → moment.succeeds key = true →
    ∀ later ∈ back, later.begins key = false ∧ later.outcome? key = none
  /-- An artifact, or any answer where failures are remembered, is what a compile has come to. -/
  answers : ∀ index other own answer, calls[index]? = some (.obtain key other own) →
    machine.answer? index = some answer → ∃ result compiled, answer = .obtained result compiled ∧
      (failurePolicy.Keeps result →
        ∃ moment ∈ past, moment.outcome? key = some (result.map Shared.content))
  /-- All callers that are given an answer of this kind are given the same one. -/
  same : ∀ first second other other' own own' result result' compiled compiled',
    calls[first]? = some (.obtain key other own) → calls[second]? = some (.obtain key other' own') →
    machine.answer? first = some (.obtained result compiled) →
    machine.answer? second = some (.obtained result' compiled') →
    failurePolicy.Keeps result → failurePolicy.Keeps result' → result = result'
  once : failurePolicy = .remember → past.countP (Moment.begins key) ≤ 1

theorem Run.stored_of_answer {index : Nat} {other : Fingerprint}
    {own : Except TemplateError (Artifact L)} {answer : Answer L}
    (agreed : Agreed calls key fingerprint)
    (run : Run (.start (.create none failurePolicy) calls) past machine)
    (asked : calls[index]? = some (.obtain key other own))
    (answered : machine.answer? index = some answer) :
    ∃ result compiled, answer = .obtained result compiled ∧
      (failurePolicy.Keeps result → machine.cache.stored? key fingerprint = some result) := by
  obtain ⟨steady, _, rfl⟩ := run.steady agreed
  obtain ⟨call, found⟩ := caller_of_answer? answered
  have same := call_of_callers run.reachable.calls_eq found
  cases asked.symm.trans same
  exact steady.callers _ _ _ _ found

/-- However the steps of the callers follow each other, the callers on a key share one compile. -/
theorem callers_share_one_compile (failurePolicy : FailurePolicy) (calls : List (Call L))
    (key : String) (fingerprint : Fingerprint) (agreed : Agreed calls key fingerprint) :
    (start (.create none failurePolicy) calls).Completes ∧
    ∀ past machine, Run (.start (.create none failurePolicy) calls) past machine →
      OneCompile failurePolicy calls key past machine := by
  refine ⟨start_completes rfl (Cache.create_listed none failurePolicy) calls, ?_⟩
  intro past machine run
  refine ⟨run.succeeds_at_most_once agreed, fun _ _ _ => run.over_after_success agreed, ?_, ?_, ?_⟩
  · intro index other own answer asked answered
    obtain ⟨_, recounts, _⟩ := run.steady agreed
    obtain ⟨result, compiled, rfl, kept⟩ := run.stored_of_answer agreed asked answered
    exact ⟨result, compiled, rfl, fun keeps => recounts.stored result (kept keeps)⟩
  · intro first second other other' own own' result result' compiled compiled' asked asked'
      answered answered' keeps keeps'
    obtain ⟨_, _, same, kept⟩ := run.stored_of_answer agreed asked answered
    obtain ⟨_, _, same', kept'⟩ := run.stored_of_answer agreed asked' answered'
    cases same
    cases same'
    exact Option.some.inj ((kept keeps).symm.trans (kept' keeps'))
  · intro same
    subst same
    exact run.begins_at_most_once agreed

/-- Four callers on a key, of which one would fail, beside a caller on another key. -/
def crowd : List (Call Nat) :=
  let fingerprint : Fingerprint := ⟨Sha256.initial⟩
  let artifact (key : String) : Artifact Nat := ⟨key, fingerprint, .dynamic, none, "source", 1⟩
  [.obtain "page" fingerprint (.ok (artifact "page")),
    .obtain "page" fingerprint (.error (.generation [])), .get "page",
    .obtain "page" fingerprint (.ok (artifact "page")),
    .obtain "page" fingerprint (.ok (artifact "page")),
    .obtain "other" fingerprint (.ok (artifact "other"))]

theorem crowd_shares_one_compile :
    Agreed crowd "page" ⟨Sha256.initial⟩ ∧
    (start (.create none .retry) crowd).Completes ∧
    ∀ past machine, Run (.start (.create none .retry) crowd) past machine →
      OneCompile .retry crowd "page" past machine := by
  have agreed : Agreed crowd "page" ⟨Sha256.initial⟩ := by
    refine ⟨?_, ?_, ?_⟩
    · intro other outcome member
      simp [crowd] at member
      rcases member with ⟨rfl, _⟩ | ⟨rfl, _⟩ | ⟨rfl, _⟩ <;> rfl
    · intro other artifact member
      simp [crowd] at member
      simp [member]
    · simp [crowd, Call.unlists]
  exact ⟨agreed, callers_share_one_compile .retry crowd "page" _ agreed⟩

end Machine
end Templating
