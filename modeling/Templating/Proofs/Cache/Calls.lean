import Templating.Cache.Request
import Templating.Proofs.Cache.Refinement

/-!
The calls of a cache with one caller, answered as a ledger answers them.

Each call is stated for a session whose cache represents a ledger: it has a result, the result
is that of the ledger, and the cache that it leaves represents what it leaves of the ledger.
-/

namespace Templating

variable {L : Type u} {ρ : Type v} {session : Session L} {ledger : Ledger L}

namespace Ledger

theorem touch_find? (ledger : Ledger L) (key other : String) :
    (ledger.touch key).find? other = ledger.find? other := by
  cases found : ledger.find? key with
  | none => rw [touch_of_none found]
  | some settled =>
      have moved : (ledger.touch key).entries = ledger.others key ++ [(key, settled)] := by
        simp [touch, found]
      rw [find?, moved, List.lookup_append, others, Fields.lookup_filter_ne]
      by_cases same : other = key
      · simp [same, found]
      · have passed : (other == key) = false := beq_eq_false_iff_ne.mpr same
        simp [same, List.lookup_cons, passed, find?]

@[simp]
theorem touch_capacity (ledger : Ledger L) (key : String) :
    (ledger.touch key).capacity = ledger.capacity := by
  unfold touch
  split <;> rfl

@[simp]
theorem touch_failurePolicy (ledger : Ledger L) (key : String) :
    (ledger.touch key).failurePolicy = ledger.failurePolicy := by
  unfold touch
  split <;> rfl

@[simp]
theorem touch_published (ledger : Ledger L) (key : String) :
    (ledger.touch key).published = ledger.published := by
  unfold touch
  split <;> rfl

theorem touch_others (ledger : Ledger L) (key : String) :
    (ledger.touch key).others key = ledger.others key := by
  unfold touch
  split
  · rfl
  · simp [others, List.filter_append]

theorem touch_answer? (ledger : Ledger L) (key : String) (fingerprint : Fingerprint) :
    (ledger.touch key).answer? key fingerprint = ledger.answer? key fingerprint := by
  simp [answer?, touch_find?]

theorem touch_put (ledger : Ledger L) (key : String) (settled : Settled L) (published : Nat) :
    { ledger.touch key with published }.put key settled =
      { ledger with published }.put key settled := by
  unfold put
  congr 1
  simp only [touch_capacity, touch_failurePolicy, mk.injEq, true_and, and_true]
  exact congrArg (· ++ [(key, settled)]) (ledger.touch_others key)

theorem obtain_of_answered {key : String} {fingerprint : Fingerprint}
    {result : Except TemplateError (Shared (Artifact L))}
    (answered : ledger.answer? key fingerprint = some result)
    (outcome : Except TemplateError (Artifact L)) :
    ledger.obtain key fingerprint outcome = ((result, false), ledger.touch key) := by
  simp [obtain, touch_answer?, answered]

theorem obtain_of_unanswered {key : String} {fingerprint : Fingerprint}
    (unanswered : ledger.answer? key fingerprint = none)
    (outcome : Except TemplateError (Artifact L)) :
    ledger.obtain key fingerprint outcome =
      ((((ledger.touch key).settle key fingerprint outcome).1, true),
        ((ledger.touch key).settle key fingerprint outcome).2) := by
  simp [obtain, touch_answer?, unanswered]

end Ledger

namespace Session

@[simp]
theorem record_cache (session : Session L) (event : Event) :
    (session.record event).cache = session.cache := rfl

@[simp]
theorem recordAll_cache (session : Session L) (events : List Event) :
    (session.recordAll events).cache = session.cache := by
  induction events generalizing session with
  | nil => rfl
  | cons event rest ih => exact ih (session.record event)

theorem settle_cache (session : Session L) (slot : SlotId) (key : String)
    (fingerprint : Fingerprint) (outcome : Except TemplateError (Artifact L)) :
    (session.settle slot key fingerprint outcome).2.cache =
      (session.settleSlot slot key fingerprint outcome).2.cache.enforceCapacity.1.release slot := by
  simp [settle, enforceCapacity, release]

end Session

namespace Cache

theorem publish_write {cache : Cache L} {id : SlotId} (within : id < cache.slots.size)
    (state : SlotState L) :
    (cache.write id state).publish id = cache.setSlot id ⟨state, state.status⟩ := by
  have written : (cache.write id state).slot id = { cache.slot id with state } :=
    slot_setSlot_self _ within
  rw [publish, written]
  simp [write, setSlot]

theorem Represents.answer? {cache : Cache L} (represents : cache.Represents ledger)
    (key : String) (fingerprint : Fingerprint) :
    (cache.slotFor key).2.answer? (cache.slotFor key).1 fingerprint =
      ledger.answer? key fingerprint := by
  rcases represents.find?_cases key with ⟨absent, unrecorded⟩ | ⟨id, settled, found, recorded, holds⟩
  · have vacant : (cache.slotFor key).2.slot (cache.slotFor key).1 = {} := by
      rw [slot_slotFor, slotFor_of_none absent, slot_of_size_le (Nat.le_refl _)]
    simp [Cache.answer?, vacant, Ledger.answer?, unrecorded]
  · have touched : (cache.touch key id).slot id = settled.slot := holds
    rw [slotFor_of_some found, answer?_of_slot touched, Ledger.answer?, recorded]
    simp [Cache.touch, represents.failurePolicy]

theorem Represents.slotFor_of_answer? {cache : Cache L} (represents : cache.Represents ledger)
    {key : String} {fingerprint : Fingerprint}
    {result : Except TemplateError (Shared (Artifact L))}
    (answered : ledger.answer? key fingerprint = some result) :
    (cache.slotFor key).2.Represents (ledger.touch key) := by
  rcases represents.find?_cases key with ⟨_, unrecorded⟩ | ⟨id, settled, found, recorded, holds⟩
  · simp [Ledger.answer?, unrecorded] at answered
  · rw [slotFor_of_some found]
    exact represents.touch_of_find? found recorded holds

end Cache

namespace Session

theorem settle_represents {key : String} {id : SlotId}
    (compiling : session.cache.Compiling key id ledger) (fingerprint : Fingerprint)
    (outcome : Except TemplateError (Artifact L)) :
    (session.settle id key fingerprint outcome).1 =
        ((ledger.touch key).settle key fingerprint outcome).1 ∧
      (session.settle id key fingerprint outcome).2.cache.Represents
        ((ledger.touch key).settle key fingerprint outcome).2 := by
  rw [settle_cache]
  cases outcome with
  | ok artifact =>
      let shared : Shared (Artifact L) := ⟨session.cache.published, artifact⟩
      let numbered : Cache L := { session.cache with published := session.cache.published + 1 }
      have settling : numbered.Compiling key id { ledger with published := ledger.published + 1 } :=
        { compiling with
          listed := compiling.listed.congr rfl rfl
          published := congrArg (· + 1) compiling.published }
      have put := settling.put (.ready shared)
      have written : (session.settleSlot id key fingerprint (.ok artifact)).2.cache =
          numbered.setSlot id (Settled.ready shared).slot :=
        Cache.publish_write settling.within (.ready shared)
      have same : shared = ⟨(ledger.touch key).published, artifact⟩ := by
        simp [shared, compiling.published]
      rw [written, Ledger.settle, Ledger.touch_put, ← same]
      exact ⟨rfl, by simpa using put⟩
  | error error =>
      have policy : session.cache.failurePolicy = (ledger.touch key).failurePolicy := by
        simpa using compiling.failurePolicy
      simp only [settleSlot, Ledger.settle, record_cache, policy]
      cases (ledger.touch key).failurePolicy with
      | remember =>
          have put := compiling.put (.failed fingerprint error)
          have replaced := ledger.touch_put key (.failed fingerprint error) ledger.published
          have written : (session.cache.write id (.failed fingerprint error)).publish id =
              session.cache.setSlot id (Settled.failed fingerprint error).slot :=
            Cache.publish_write compiling.within (.failed fingerprint error)
          rw [written]
          refine ⟨rfl, ?_⟩
          rw [← ledger.touch_published key] at replaced
          simpa [replaced] using put
      | retry =>
          refine ⟨rfl, ?_⟩
          cases state : (session.cache.slot id).state with
          | vacant => exact compiling.drop state
          | ready artifact => exact compiling.keep (by simp [state])
          | failed recorded old => exact compiling.keep (by simp [state])

def holding (session : Session L) (key : String) : Session L :=
  { session with cache := (session.cache.slotFor key).2.hold (session.cache.slotFor key).1 }

theorem acquire_represents (represents : session.cache.Represents ledger) (key : String)
    (fingerprint : Fingerprint) :
    match ledger.answer? key fingerprint with
    | some result => ∃ after, session.acquire key fingerprint = some (.answered result, after) ∧
        after.cache.Represents (ledger.touch key)
    | none => session.acquire key fingerprint =
        some (.granted (session.cache.slotFor key).1, session.holding key) := by
  have free : (session.cache.slotFor key).2.isHeld (session.cache.slotFor key).1 = false := by
    simp [Cache.isHeld, represents.idle]
  have current : (session.cache.slotFor key).2.isCurrent key (session.cache.slotFor key).1 = true := by
    simp [Cache.isCurrent_iff, Cache.slotFor_find?]
  have answers := represents.answer? key fingerprint
  cases answered : ledger.answer? key fingerprint with
  | none =>
      rw [answered] at answers
      simp [acquire, free, current, answers, holding]
  | some result =>
      have touched := represents.slotFor_of_answer? answered
      rw [answered] at answers
      cases result with
      | ok artifact =>
          exact ⟨{ session with cache := (session.cache.slotFor key).2 }.record (.cacheHit key),
            by simp [acquire, free, current, answers], touched⟩
      | error error =>
          exact ⟨{ session with cache := (session.cache.slotFor key).2 }.record (.cachedFailure key),
            by simp [acquire, free, current, answers], touched⟩

/-- A call for a key answers as a ledger does.  The compile must leave the cache alone. -/
theorem obtain_represents (represents : session.cache.Represents ledger) (key : String)
    (fingerprint : Fingerprint) (outcome : Except TemplateError (Artifact L))
    (compile : Session L → Option (Except TemplateError (Artifact L) × ρ × Session L))
    (pure : ∀ holding, ∃ report after,
      compile holding = some (outcome, report, after) ∧ after.cache = holding.cache) :
    ∃ report after,
      session.obtain key fingerprint compile =
        some (((ledger.obtain key fingerprint outcome).1.1, report), after) ∧
      report.isSome = (ledger.obtain key fingerprint outcome).1.2 ∧
      after.cache.Represents (ledger.obtain key fingerprint outcome).2 := by
  have acquired := acquire_represents represents key fingerprint
  cases answered : ledger.answer? key fingerprint with
  | some result =>
      rw [answered] at acquired
      obtain ⟨after, acquired, touched⟩ := acquired
      rw [Ledger.obtain_of_answered answered]
      exact ⟨none, after, by simp [obtain, acquired], rfl, touched⟩
  | none =>
      rw [answered] at acquired
      obtain ⟨report, compiled, ran, same⟩ := pure (session.holding key)
      have compiling : compiled.cache.Compiling key (session.cache.slotFor key).1 ledger := by
        rw [same]
        exact represents.compiling key
      obtain ⟨result, settled⟩ := settle_represents compiling fingerprint outcome
      rw [Ledger.obtain_of_unanswered answered]
      exact ⟨some report, _, by simp [obtain, acquired, ran, result], rfl, settled⟩

theorem get_represents (represents : session.cache.Represents ledger) (key : String) :
    ∃ after, session.get key = some (ledger.artifact? key, after) ∧
      after.cache.Represents (ledger.touch key) := by
  rcases represents.find?_cases key with ⟨absent, unrecorded⟩ | ⟨id, settled, found, recorded, holds⟩
  · refine ⟨session, by simp [get, absent, Ledger.artifact?, unrecorded], ?_⟩
    rw [Ledger.touch_of_none unrecorded]
    exact represents
  · have touched : (session.cache.touch key id).slot id = settled.slot := holds
    have free : (session.cache.touch key id).isHeld id = false := by
      simp [Cache.isHeld, Cache.touch, represents.idle]
    refine ⟨{ session with cache := session.cache.touch key id }, ?_,
      represents.touch_of_find? found recorded holds⟩
    simp [get, found, free, Cache.artifact?_of_slot touched, Ledger.artifact?, recorded]

theorem contains_represents (represents : session.cache.Represents ledger) (key : String) :
    ∃ after, session.contains key = some ((ledger.artifact? key).isSome, after) ∧
      after.cache.Represents (ledger.touch key) := by
  obtain ⟨after, got, touched⟩ := get_represents represents key
  exact ⟨after, by simp [contains, got], touched⟩

theorem remove_represents (represents : session.cache.Represents ledger) (key : String) :
    (session.remove key).1 = (ledger.artifact? key).isSome ∧
      (session.remove key).2.cache.Represents (ledger.remove key) := by
  rcases represents.find?_cases key with ⟨absent, unrecorded⟩ | ⟨id, settled, found, recorded, holds⟩
  · have nothing : ledger.remove key = ledger := by
      simp [Ledger.remove, Ledger.others_of_none unrecorded]
    simp only [remove, absent, Ledger.artifact?, unrecorded, nothing]
    exact ⟨rfl, represents⟩
  · simp only [remove, found, holds, Settled.slot_isReady, Ledger.artifact?, recorded]
    exact ⟨rfl, represents.remove key⟩

theorem clear_represents (represents : session.cache.Represents ledger) :
    session.clear.cache.Represents ledger.clear :=
  represents.clear

end Session

namespace Request

theorem shows_of_represents {report : Report L} {served : Answer L × Ledger L}
    (answer : report.answer = served.1) (represents : report.after.Represents served.2) :
    report.Shows served :=
  ⟨answer, represents.keys, represents.size, represents.isEmpty⟩

theorem run_shows (represents : session.cache.Represents ledger) (request : Request L)
    (flat : request.isFlat = true) :
    ∃ report after, request.run session = some (report, after) ∧
      report.Shows (ledger.serve request) ∧ after.cache.Represents (ledger.serve request).2 := by
  cases request with
  | obtain key fingerprint events during outcome =>
      have none : during = [] := by simpa [isFlat] using flat
      subst during
      obtain ⟨during, after, answered, compiled, served⟩ :=
        Session.obtain_represents represents key fingerprint outcome
          (fun session => (runAll (session.recordAll events) []).map (Prod.mk outcome))
          fun holding => ⟨[], holding.recordAll events, by simp [runAll]⟩
      have ran : run session (.obtain key fingerprint events [] outcome) =
          some (.obtained (ledger.obtain key fingerprint outcome).1.1 during after.cache, after) := by
        have reported := congrArg (Option.map fun given =>
          (Report.obtained given.1.1 given.1.2 given.2.cache, given.2)) answered
        exact reported
      refine ⟨.obtained (ledger.obtain key fingerprint outcome).1.1 during after.cache, after, ran,
        shows_of_represents ?_ served, served⟩
      simp [Report.answer, Ledger.serve, compiled]
  | get key =>
      obtain ⟨after, answered, served⟩ := Session.get_represents represents key
      exact ⟨.found (ledger.artifact? key) after.cache, after,
        by simp only [run, answered, Option.map_some], shows_of_represents rfl served, served⟩
  | contains key =>
      obtain ⟨after, answered, served⟩ := Session.contains_represents represents key
      exact ⟨.flag (ledger.artifact? key).isSome after.cache, after,
        by simp only [run, answered, Option.map_some], shows_of_represents rfl served, served⟩
  | remove key =>
      obtain ⟨answered, served⟩ := Session.remove_represents represents key
      refine ⟨.flag (session.remove key).1 (session.remove key).2.cache, (session.remove key).2,
        by simp only [run], shows_of_represents ?_ served, served⟩
      simp [Report.answer, Ledger.serve, answered]
  | clear =>
      have served := Session.clear_represents represents
      exact ⟨.cleared session.clear.cache, session.clear, by simp only [run],
        shows_of_represents rfl served, served⟩

theorem runAll_shows (represents : session.cache.Represents ledger) (requests : List (Request L))
    (flat : ∀ request ∈ requests, request.isFlat = true) :
    ∃ reports after, runAll session requests = some (reports, after) ∧
      List.Forall₂ Report.Shows reports (ledger.serveAll requests) := by
  induction requests generalizing session ledger with
  | nil => exact ⟨[], session, by simp [runAll], .nil⟩
  | cons request rest ih =>
      obtain ⟨report, next, ran, shown, served⟩ := run_shows represents request (flat request (by simp))
      obtain ⟨reports, after, ranAll, shownAll⟩ :=
        ih served fun other member => flat other (by simp [member])
      exact ⟨report :: reports, after, by simp [runAll, ran, ranAll], .cons shown shownAll⟩

/-- Every sequence of calls is answered as a ledger answers it, and after each call the cache
lists the keys that the ledger lists. -/
theorem runAll_refines_ledger (capacity : Option Nat) (failurePolicy : FailurePolicy)
    (requests : List (Request L)) (flat : ∀ request ∈ requests, request.isFlat = true) :
    ∃ reports session,
      runAll { cache := .create capacity failurePolicy } requests = some (reports, session) ∧
      List.Forall₂ Report.Shows reports
        (({ capacity, failurePolicy } : Ledger L).serveAll requests) :=
  runAll_shows (Cache.create_represents capacity failurePolicy) requests flat

/-- Two artifacts and a failure share two seats. -/
def crowded : List (Request Nat) :=
  let fingerprint : Fingerprint := ⟨Sha256.initial⟩
  let artifact (key : String) : Artifact Nat := ⟨key, fingerprint, .dynamic, none, "source", 1⟩
  [.obtain "first" fingerprint [] [] (.ok (artifact "first")),
    .obtain "second" fingerprint [] [] (.error (.generation [])), .get "first",
    .obtain "third" fingerprint [] [] (.ok (artifact "third")), .contains "second",
    .remove "first", .clear]

theorem crowded_refines_ledger :
    (∀ request ∈ crowded, request.isFlat = true) ∧
    ∃ reports session,
      runAll { cache := .create (some 2) .remember } crowded = some (reports, session) ∧
      List.Forall₂ Report.Shows reports
        (({ capacity := some 2, failurePolicy := .remember } : Ledger Nat).serveAll crowded) := by
  have flat : ∀ request ∈ crowded, request.isFlat = true := by simp [crowded, isFlat]
  exact ⟨flat, runAll_refines_ledger (some 2) .remember crowded flat⟩

end Request
end Templating
