import Templating.Proofs.Cache.Settling

/-!
Calls that are made by compiles.

A compile may call the cache that it compiles for, and these calls may compile in turn.  What all
calls keep, however deep they are nested, is proved once by `Request.run_framed`; the rest of a
development need only look at one compile at a time, with whatever its calls have left.
-/

namespace Templating

variable {L : Type u}

/-- A relation between the caches before and after that holds of whole runs if it holds of each call,
where a compile has left what the relation allows. -/
structure Cache.Framed (Relates : Cache L → Cache L → Prop) : Prop where
  refl : ∀ cache, Relates cache cache
  trans : ∀ {first second third}, Relates first second → Relates second third → Relates first third
  touch : ∀ {cache key slot}, cache.find? key = some slot → Relates cache (cache.touch key slot)
  unlist : ∀ cache key, Relates cache (cache.unlist key)
  clear : ∀ cache, Relates cache cache.clear
  settle : ∀ {cache : Cache L} {key : String} {session : Session L}
    (fingerprint : Fingerprint) (outcome : Except TemplateError (Artifact L)),
    (cache.slotFor key).2.isHeld (cache.slotFor key).1 = false →
    Relates ((cache.slotFor key).2.hold (cache.slotFor key).1) session.cache →
    Relates cache (session.settle (cache.slotFor key).1 key fingerprint outcome).2.cache

namespace Session

/-- The two ways in which a caller gets hold of the slot of a key that nobody else uses meanwhile. -/
inductive Acquires (session : Session L) (key : String) (fingerprint : Fingerprint) :
    Acquired L → Session L → Prop where
  | answered {after : Session L} (found : session.cache.find? key = some slot)
      (answer : session.cache.answer? slot fingerprint = some result)
      (same : after.cache = session.cache.touch key slot) :
      Acquires session key fingerprint (.answered result) after
  | granted {after : Session L}
      (free : (session.cache.slotFor key).2.isHeld (session.cache.slotFor key).1 = false)
      (same : after.cache = (session.cache.slotFor key).2.hold (session.cache.slotFor key).1) :
      Acquires session key fingerprint (.granted (session.cache.slotFor key).1) after

variable {session after : Session L} {key : String} {fingerprint : Fingerprint}

theorem acquires {acquired : Acquired L}
    (acquire : session.acquire key fingerprint = some (acquired, after)) :
    Acquires session key fingerprint acquired after := by
  have current : (session.cache.slotFor key).2.isCurrent key (session.cache.slotFor key).1 = true := by
    simp [Cache.isCurrent_iff, Cache.slotFor_find?]
  have hit {result : Except TemplateError (Shared (Artifact L))} {after : Session L}
      (answer : (session.cache.slotFor key).2.answer? (session.cache.slotFor key).1 fingerprint =
        some result)
      (same : after.cache = (session.cache.slotFor key).2) :
      Acquires session key fingerprint (.answered result) after := by
    cases found : session.cache.find? key with
    | some slot =>
        rw [Cache.slotFor_of_some found] at answer same
        exact .answered found answer same
    | none =>
        have vacant : ((session.cache.slotFor key).2.slot (session.cache.slotFor key).1).state =
            .vacant := by
          rw [Cache.slot_slotFor, Cache.slotFor_of_none found,
            Cache.slot_of_size_le (Nat.le_refl _)]
        simp only [Cache.answer?, vacant, reduceCtorEq] at answer
  simp only [Session.acquire, current, Bool.not_true, Bool.false_eq_true, if_false] at acquire
  split at acquire
  · contradiction
  · next free =>
      split at acquire
      · next answer =>
          cases acquire
          exact hit answer rfl
      · next answer =>
          cases acquire
          exact hit answer rfl
      · cases acquire
        exact .granted (by simpa using free) rfl

end Session

namespace Request

variable {Relates : Cache L → Cache L → Prop}

theorem get_framed (framed : Cache.Framed Relates) {session after : Session L} {key : String}
    {artifact : Option (Shared (Artifact L))} (got : session.get key = some (artifact, after)) :
    Relates session.cache after.cache := by
  simp only [Session.get] at got
  split at got
  · cases got
    exact framed.refl _
  · next slot found =>
      split at got
      · contradiction
      · cases got
        exact framed.touch found

mutual

/-- What each call keeps is kept by a call with all that its compile calls. -/
theorem run_framed (framed : Cache.Framed Relates) (request : Request L) {session after : Session L}
    {report : Report L} (ran : request.run session = some (report, after)) :
    Relates session.cache after.cache :=
  match request with
  | .obtain key fingerprint events during outcome => by
      simp only [run, Option.map_eq_some_iff] at ran
      obtain ⟨⟨⟨result, reports⟩, final⟩, obtains, same⟩ := ran
      cases same
      unfold Session.obtain at obtains
      split at obtains
      · contradiction
      · contradiction
      · next acquire =>
          cases obtains
          cases Session.acquires acquire with
          | answered found answer same => exact same ▸ framed.touch found
      · next slot held acquire =>
          split at obtains
          · contradiction
          · next compiled =>
              cases obtains
              obtain ⟨⟨reports, inside⟩, calls, same⟩ := Option.map_eq_some_iff.mp compiled
              cases same
              have kept := runAll_framed framed during calls
              cases Session.acquires acquire with
              | granted free same =>
                  rw [Session.recordAll_cache, same] at kept
                  exact framed.settle fingerprint outcome free kept
  | .get key => by
      simp only [run, Option.map_eq_some_iff] at ran
      obtain ⟨⟨artifact, final⟩, got, same⟩ := ran
      cases same
      exact get_framed framed got
  | .contains key => by
      simp only [run, Session.contains, Option.map_map, Option.map_eq_some_iff] at ran
      obtain ⟨⟨artifact, final⟩, got, same⟩ := ran
      cases same
      exact get_framed framed got
  | .remove key => by
      simp only [run, Option.some.injEq, Prod.mk.injEq] at ran
      obtain ⟨_, rfl⟩ := ran
      unfold Session.remove
      split
      · exact framed.refl _
      · exact framed.unlist _ _
  | .clear => by
      cases ran
      exact framed.clear _

theorem runAll_framed (framed : Cache.Framed Relates) (requests : List (Request L))
    {session after : Session L} {reports : List (Report L)}
    (ran : runAll session requests = some (reports, after)) :
    Relates session.cache after.cache :=
  match requests with
  | [] => by
      cases ran
      exact framed.refl _
  | request :: rest => by
      simp only [runAll] at ran
      split at ran
      · contradiction
      · next report next first =>
          obtain ⟨⟨reports, final⟩, others, same⟩ := Option.map_eq_some_iff.mp ran
          cases same
          exact framed.trans (run_framed framed request first) (runAll_framed framed rest others)

end

end Request

/-! ## What nested calls keep in order -/

namespace Cache

variable {cache before after : Cache L} {key : String} {id : SlotId}

def filled (cache : Cache L) : Nat :=
  cache.entries.countP fun entry => (cache.slot entry.2).state.status ≠ .vacant

structure Orderly (cache : Cache L) : Prop where
  listed : cache.Listed
  mirrored : ∀ id, (cache.slot id).status = (cache.slot id).state.status
  forgets : cache.failurePolicy = .retry → ∀ id, (cache.slot id).status ≠ .failed
  made : ∀ id ∈ cache.held, id < cache.slots.size
  /-- Each compile that runs may have kept one slot from being evicted. -/
  bounded : ∀ capacity, cache.capacity = some capacity →
    cache.settledCount ≤ max capacity (cache.held.length + 1)

/-- What calls leave as it was: the locks that are held around them, the slots under these, and the
key that a slot is listed for. -/
structure Spares (before after : Cache L) : Prop where
  lists : ∀ entry ∈ after.entries, entry.2 < before.slots.size → entry ∈ before.entries
  held : after.held = before.held
  locked : ∀ id ∈ before.held, after.slot id = before.slot id
  size : before.slots.size ≤ after.slots.size
  capacity : after.capacity = before.capacity
  failurePolicy : after.failurePolicy = before.failurePolicy

theorem create_orderly (capacity : Option Nat) (failurePolicy : FailurePolicy) :
    (create capacity failurePolicy : Cache L).Orderly where
  listed := create_listed capacity failurePolicy
  mirrored := fun _ => by simp [create, slot, SlotState.status]
  forgets := fun _ _ => by simp [create, slot]
  made := fun _ member => (List.not_mem_nil member).elim
  bounded := fun _ _ => by simp [create, settledCount]

theorem Orderly.filled_eq (orderly : cache.Orderly) : cache.filled = cache.settledCount := by
  simp only [filled, settledCount, Slot.isSettled, orderly.mirrored]

theorem size_le_settledCount (cache : Cache L) : cache.size ≤ cache.settledCount := by
  refine List.countP_mono_left fun entry _ ready => ?_
  have status : (cache.slot entry.2).status = .ready := by simpa [Slot.isReady] using ready
  simp [Slot.isSettled, status]

theorem Orderly.of_sublist {shorter : List (String × SlotId)} (orderly : cache.Orderly)
    (sublist : shorter.Sublist cache.entries) : { cache with entries := shorter }.Orderly where
  listed := orderly.listed.of_sublist sublist
  mirrored := orderly.mirrored
  forgets := orderly.forgets
  made := orderly.made
  bounded := fun capacity bound =>
    Nat.le_trans (sublist.countP_le) (orderly.bounded capacity bound)

theorem Listed.touch_perm (listed : cache.Listed) (found : cache.find? key = some id) :
    (cache.touch key id).entries.Perm cache.entries := by
  have nodup (cache : Cache L) (listed : cache.Listed) : cache.entries.Nodup :=
    List.Nodup.of_map _ listed.keys
  refine (List.perm_ext_iff_of_nodup (nodup _ (listed.touch found)) (nodup _ listed)).mpr ?_
  intro entry
  simp only [Cache.touch, List.mem_append, mem_others, List.mem_singleton]
  constructor
  · intro given
    rcases given with ⟨member, _⟩ | rfl
    · exact member
    · exact mem_of_find? found
  · intro member
    by_cases same : entry.1 = key
    · right
      have here := listed.find?_eq_some_iff.mpr (same ▸ member : (key, entry.2) ∈ cache.entries)
      rw [found] at here
      rw [Option.some.inj here, ← same]
    · exact .inl ⟨member, same⟩

theorem Orderly.touch (orderly : cache.Orderly) (found : cache.find? key = some id) :
    (cache.touch key id).Orderly where
  listed := orderly.listed.touch found
  mirrored := orderly.mirrored
  forgets := orderly.forgets
  made := orderly.made
  bounded := fun capacity bound => by
    have same : (cache.touch key id).settledCount = cache.settledCount :=
      (orderly.listed.touch_perm found).countP_eq _
    rw [same]
    exact orderly.bounded capacity bound

theorem Orderly.slotFor (orderly : cache.Orderly) (key : String) :
    (cache.slotFor key).2.Orderly := by
  cases found : cache.find? key with
  | some id =>
      rw [slotFor_of_some found]
      exact orderly.touch found
  | none =>
      have listed := orderly.listed.slotFor key
      have slots := slot_slotFor cache key
      have count : (cache.slotFor key).2.settledCount = cache.settledCount := by
        have fresh : (cache.slot cache.slots.size).isSettled = false := by
          simp [slot_of_size_le (Nat.le_refl _), Slot.isSettled]
        unfold settledCount
        simp only [slots]
        rw [slotFor_of_none found, others_eq_self found]
        simp [fresh]
      refine ⟨listed, fun id => ?_, fun policy id => ?_, fun id member => ?_, fun bound capacity => ?_⟩
      · rw [slots]
        exact orderly.mirrored id
      · rw [slots]
        exact orderly.forgets (by simpa using policy) id
      · rw [slotFor_held] at member
        rw [slotFor_of_none found]
        simpa using Nat.lt_succ_of_lt (orderly.made id member)
      · rw [count, slotFor_held]
        exact orderly.bounded bound (by simpa using capacity)

theorem Orderly.hold (orderly : cache.Orderly) (within : id < cache.slots.size) :
    (cache.hold id).Orderly where
  listed := orderly.listed.hold id
  mirrored := orderly.mirrored
  forgets := orderly.forgets
  made := fun other member => by
    rcases List.mem_cons.mp member with rfl | before
    · exact within
    · exact orderly.made other before
  bounded := fun capacity bound => by
    have few := orderly.bounded capacity bound
    have more : (cache.hold id).held.length = cache.held.length + 1 := by simp [Cache.hold]
    have same : (cache.hold id).settledCount = cache.settledCount := rfl
    omega

theorem outcomeSlot_mirrored {slot : SlotId} (mirrored : (cache.slot slot).status =
    (cache.slot slot).state.status) (fingerprint : Fingerprint)
    (outcome : Except TemplateError (Artifact L)) :
    (cache.outcomeSlot slot fingerprint outcome).status =
      (cache.outcomeSlot slot fingerprint outcome).state.status := by
  cases outcome with
  | ok artifact => rfl
  | error error =>
      simp only [outcomeSlot]
      split
      · rfl
      · exact mirrored

theorem outcomeSlot_forgets {slot : SlotId} (policy : cache.failurePolicy = .retry)
    (forgets : (cache.slot slot).status ≠ .failed) (fingerprint : Fingerprint)
    (outcome : Except TemplateError (Artifact L)) :
    (cache.outcomeSlot slot fingerprint outcome).status ≠ .failed := by
  cases outcome with
  | ok artifact => simp [outcomeSlot]
  | error error => simpa [outcomeSlot, policy] using forgets

theorem trimmed_sublist (cache : Cache L) (locked : List SlotId) (entries : List (String × SlotId)) :
    (cache.trimmed locked entries).Sublist entries := by
  unfold trimmed
  split
  · exact List.Sublist.refl _
  · exact spared_sublist _ _ _

theorem Settles.entries_sublist {inside : Cache L} {slot : SlotId} {fingerprint : Fingerprint}
    {outcome : Except TemplateError (Artifact L)} {locked : List SlotId}
    (settles : Settles key slot fingerprint outcome locked inside after) :
    after.entries.Sublist inside.entries := by
  rw [settles.entries]
  exact (trimmed_sublist _ _ _).trans (inside.outcomeEntries_sublist key slot outcome)

theorem Settles.orderly {inside : Cache L} {slot : SlotId} {fingerprint : Fingerprint}
    {outcome : Except TemplateError (Artifact L)}
    (settles : Settles key slot fingerprint outcome inside.held inside after)
    (orderly : inside.Orderly) (holds : slot ∈ inside.held) : after.Orderly where
  listed := (orderly.listed.of_sublist settles.entries_sublist).congr rfl settles.size
  mirrored := fun id => by
    by_cases same : id = slot
    · rw [same, settles.own]
      exact outcomeSlot_mirrored (orderly.mirrored slot) fingerprint outcome
    · rw [settles.others id same]
      exact orderly.mirrored id
  forgets := fun policy id => by
    rw [settles.failurePolicy] at policy
    by_cases same : id = slot
    · rw [same, settles.own]
      exact outcomeSlot_forgets policy (orderly.forgets policy slot) fingerprint outcome
    · rw [settles.others id same]
      exact orderly.forgets policy id
  made := fun id member => by
    rw [settles.held] at member
    rw [settles.size]
    exact orderly.made id (List.mem_of_mem_erase member)
  bounded := fun capacity bound => by
    have few := settles.settledCount_le orderly.listed (settles.capacity.symm.trans bound)
    have one := List.length_erase_of_mem holds
    have some := List.length_pos_of_mem holds
    rw [settles.held]
    omega

theorem Spares.refl (cache : Cache L) : Spares cache cache :=
  ⟨fun _ member _ => member, rfl, fun _ _ => rfl, Nat.le_refl _, rfl, rfl⟩

theorem Spares.trans {third : Cache L} (spares : Spares before after) (later : Spares after third) :
    Spares before third where
  lists := fun entry member old =>
    have between := later.lists entry member (Nat.lt_of_lt_of_le old spares.size)
    spares.lists entry between old
  held := later.held.trans spares.held
  locked := fun id member =>
    (later.locked id (spares.held ▸ member)).trans (spares.locked id member)
  size := Nat.le_trans spares.size later.size
  capacity := later.capacity.trans spares.capacity
  failurePolicy := later.failurePolicy.trans spares.failurePolicy

theorem spares_of_entries (cache : Cache L) {entries : List (String × SlotId)}
    (fewer : ∀ entry ∈ entries, entry ∈ cache.entries) : Spares cache { cache with entries } :=
  ⟨fun entry member _ => fewer entry member, rfl, fun _ _ => rfl, Nat.le_refl _, rfl, rfl⟩

theorem slotFor_size_le (cache : Cache L) (key : String) :
    cache.slots.size ≤ (cache.slotFor key).2.slots.size := by
  cases found : cache.find? key with
  | some id => rw [slotFor_of_some found]; exact Nat.le_refl _
  | none => simp [slotFor_of_none found]

theorem mem_slotFor_entries {entry : String × SlotId}
    (member : entry ∈ (cache.slotFor key).2.entries) (old : entry.2 < cache.slots.size) :
    entry ∈ cache.entries := by
  cases found : cache.find? key with
  | some id =>
      rw [slotFor_of_some found] at member
      rcases List.mem_append.mp member with before | last
      · exact ((others_sublist cache key).subset before)
      · rw [List.mem_singleton.mp last]
        exact mem_of_find? found
  | none =>
      rw [slotFor_of_none found] at member
      rcases List.mem_append.mp member with before | last
      · exact (others_sublist cache key).subset before
      · rw [List.mem_singleton.mp last] at old
        exact absurd old (Nat.lt_irrefl _)

/-- A call that compiles for a slot holds it throughout, and so nothing that its compile calls can
have touched the slot. -/
theorem Spares.own {inside : Cache L}
    (spares : Spares ((cache.slotFor key).2.hold (cache.slotFor key).1) inside) :
    inside.held = (cache.slotFor key).1 :: cache.held ∧
      inside.slot (cache.slotFor key).1 = cache.slot (cache.slotFor key).1 := by
  constructor
  · simpa [Cache.hold] using spares.held
  · exact (spares.locked _ (by simp [Cache.hold])).trans (slot_slotFor cache key _)

theorem Spares.settle {inside : Cache L} {fingerprint : Fingerprint}
    {outcome : Except TemplateError (Artifact L)}
    (spares : Spares ((cache.slotFor key).2.hold (cache.slotFor key).1) inside)
    (free : (cache.slotFor key).2.isHeld (cache.slotFor key).1 = false)
    (settles : Settles key (cache.slotFor key).1 fingerprint outcome inside.held inside after) :
    Spares cache after where
  lists := fun entry member old => by
    have listed := spares.lists entry (settles.entries_sublist.subset member)
      (Nat.lt_of_lt_of_le old (slotFor_size_le cache key))
    exact mem_slotFor_entries listed old
  held := by
    rw [settles.held, spares.own.1]
    simp
  locked := fun id member => by
    have different : id ≠ (cache.slotFor key).1 := by
      intro same
      subst same
      simp [isHeld, member] at free
    have before := spares.locked id (by simp [Cache.hold, member])
    rw [settles.others id different, before]
    exact slot_slotFor cache key id
  size := by
    rw [settles.size]
    exact Nat.le_trans (slotFor_size_le cache key) spares.size
  capacity := by
    rw [settles.capacity, spares.capacity]
    exact slotFor_capacity cache key
  failurePolicy := by
    rw [settles.failurePolicy, spares.failurePolicy]
    exact slotFor_failurePolicy cache key

theorem orderly_framed :
    Framed fun before after : Cache L => before.Orderly → after.Orderly ∧ Spares before after where
  refl := fun cache orderly => ⟨orderly, .refl cache⟩
  trans := fun first second orderly =>
    have between := first orderly
    have last := second between.1
    ⟨last.1, between.2.trans last.2⟩
  touch := fun found orderly =>
    ⟨orderly.touch found, spares_of_entries _ fun _ => (orderly.listed.touch_perm found).mem_iff.mp⟩
  unlist := fun cache key orderly =>
    have fewer := others_sublist cache key
    ⟨orderly.of_sublist fewer, spares_of_entries _ fun _ member => fewer.subset member⟩
  clear := fun _ orderly =>
    have fewer := List.nil_sublist _
    ⟨orderly.of_sublist fewer, spares_of_entries _ fun _ member => fewer.subset member⟩
  settle := by
    intro cache key session fingerprint outcome free calls orderly
    have within := orderly.listed.slotFor_within key
    obtain ⟨inside, spares⟩ := calls ((orderly.slotFor key).hold within)
    have settles := Session.settle_settles (Nat.lt_of_lt_of_le within spares.size) key fingerprint
      outcome
    have holds : (cache.slotFor key).1 ∈ session.cache.held := by simp [spares.own.1]
    exact ⟨settles.orderly inside holds, spares.settle free settles⟩

end Cache

/-! ## The moments of a run -/

namespace Request

/-- While the requests are run a session comes by in which the compiles for `locks` run, the latest
first, and no call is at work. -/
inductive Visits : Session L → List (Request L) → List SlotId → Session L → Prop where
  | now : Visits session requests [] session
  | later (ran : run session request = some (report, next))
      (visits : Visits next rest locks met) : Visits session (request :: rest) locks met
  | within (granted : session.acquire key fingerprint = some (.granted slot, held))
      (visits : Visits (held.recordAll events) during locks met) :
      Visits session (.obtain key fingerprint events during outcome :: rest) (locks ++ [slot]) met

variable {session met : Session L} {requests : List (Request L)} {locks : List SlotId}

theorem Visits.orderly (visits : Visits session requests locks met)
    (orderly : session.cache.Orderly) :
    met.cache.Orderly ∧ met.cache.held = locks ++ session.cache.held ∧
      met.cache.capacity = session.cache.capacity ∧
      met.cache.failurePolicy = session.cache.failurePolicy := by
  induction visits with
  | now => exact ⟨orderly, rfl, rfl, rfl⟩
  | later ran visits ih =>
      obtain ⟨next, spares⟩ := run_framed Cache.orderly_framed _ ran orderly
      obtain ⟨last, held, capacity, failurePolicy⟩ := ih next
      exact ⟨last, by rw [held, spares.held], capacity.trans spares.capacity,
        failurePolicy.trans spares.failurePolicy⟩
  | within granted visits ih =>
      cases Session.acquires granted with
      | granted free same =>
          have start (key : String) := (orderly.slotFor key).hold (orderly.listed.slotFor_within key)
          obtain ⟨last, held, capacity, failurePolicy⟩ := ih (by
            rw [Session.recordAll_cache, same]
            exact start _)
          rw [Session.recordAll_cache, same] at held capacity failurePolicy
          refine ⟨last, ?_, capacity.trans (Cache.slotFor_capacity _ _),
            failurePolicy.trans (Cache.slotFor_failurePolicy _ _)⟩
          rw [held]
          simp [Cache.hold]

end Request
end Templating
