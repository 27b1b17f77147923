import Templating.Proofs.Cache.Provenance
import Templating.Proofs.Cache.Reentry
import Templating.Proofs.Pipeline.Outcome

/-!
The keys that artifacts are filed under.

A cache that is filled by nothing but compiles of inputs lists each artifact under its own key: that of
an input which a pipeline made it of.  A slot that a call compiles for is listed for the key of the call
or not at all, so that this survives whatever the compiles of a call do to the cache.
-/

namespace Templating

variable {L : Type u} {ρ : Type v}

/-- A pipeline made the artifact of an input with the key, and it is marked with the key and the
fingerprint of the input. -/
structure Artifact.MadeFor (key : String) (artifact : Artifact L) : Prop where
  marked : artifact.key = key
  made : ∃ pipeline input options, input.key = key ∧ artifact.fingerprint = input.fingerprint ∧
    (compileTemplate pipeline input options).1 = .ok artifact

/-- A compile for a key and a fingerprint comes to what a pipeline makes of an input. -/
def CompilesInput (key : String) (fingerprint : Fingerprint)
    (outcome : Except TemplateError (Artifact L)) : Prop :=
  ∃ pipeline input options, input.key = key ∧ input.fingerprint = fingerprint ∧
    (compileTemplate pipeline input options).1 = outcome

theorem CompilesInput.madeFor {key : String} {fingerprint : Fingerprint} {artifact : Artifact L}
    (compiles : CompilesInput key fingerprint (.ok artifact)) : artifact.MadeFor key := by
  obtain ⟨pipeline, input, options, rfl, _, comes⟩ := compiles
  obtain ⟨key, fingerprint, _⟩ := compileTemplate_eq_ok comes
  exact ⟨key, pipeline, input, options, rfl, fingerprint, comes⟩

def Cache.Lists (cache : Cache L) (key : String) (artifact : Shared (Artifact L)) : Prop :=
  ∃ slot, (key, slot) ∈ cache.entries ∧ (cache.slot slot).state = .ready artifact

/-- Each artifact is listed under the key that it was made for. -/
def Cache.Filed (cache : Cache L) : Prop :=
  ∀ key artifact, cache.Lists key artifact → artifact.content.MadeFor key

mutual

/-- Whether all compiles of a request are compiles of inputs. -/
def Request.CompilesInputs : Request L → Prop
  | .obtain key fingerprint _ during outcome =>
      CompilesInput key fingerprint outcome ∧ AllCompileInputs during
  | .get _ | .contains _ | .remove _ | .clear => True

def Request.AllCompileInputs : List (Request L) → Prop
  | [] => True
  | request :: rest => request.CompilesInputs ∧ AllCompileInputs rest

end

namespace Cache

variable {cache inside after : Cache L} {key : String} {id slot : SlotId} {fingerprint : Fingerprint}
  {outcome : Except TemplateError (Artifact L)}

theorem Listed.lists_iff (listed : cache.Listed) {artifact : Shared (Artifact L)} :
    cache.Lists key artifact ↔ cache.cached? key = some artifact := by
  simp only [cached?, Option.bind_eq_some_iff, listed.find?_eq_some_iff, artifact?_eq_some_iff, Cache.Lists]

theorem filed_of_empty (empty : cache.entries = []) : cache.Filed := by
  rintro key artifact ⟨slot, member, _⟩
  rw [empty] at member
  contradiction

theorem Filed.of_subset (filed : cache.Filed) (fewer : ∀ entry ∈ after.entries, entry ∈ cache.entries)
    (same : ∀ id, after.slot id = cache.slot id) : after.Filed := by
  rintro key artifact ⟨slot, member, ready⟩
  exact filed key artifact ⟨slot, fewer _ member, same slot ▸ ready⟩

theorem Filed.slotFor (filed : cache.Filed) (key : String) : (cache.slotFor key).2.Filed := by
  rintro other artifact ⟨slot, member, ready⟩
  rw [slot_slotFor] at ready
  by_cases old : slot < cache.slots.size
  · exact filed other artifact ⟨slot, mem_slotFor_entries member old, ready⟩
  · rw [slot_of_size_le (Nat.le_of_not_lt old)] at ready
    cases ready

theorem Filed.touch (filed : cache.Filed) (found : cache.find? key = some id) :
    (cache.touch key id).Filed := by
  have made := filed.slotFor key
  rwa [slotFor_of_some found] at made

theorem Filed.artifact? (filed : cache.Filed) (found : cache.find? key = some id)
    {artifact : Shared (Artifact L)} (stored : cache.artifact? id = some artifact) :
    artifact.content.MadeFor key :=
  filed key artifact ⟨id, mem_of_find? found, artifact?_eq_some_iff.mp stored⟩

theorem Filed.answer? (filed : cache.Filed) (found : cache.find? key = some id)
    {artifact : Shared (Artifact L)} (answered : cache.answer? id fingerprint = some (.ok artifact)) :
    cache.artifact? id = some artifact ∧ artifact.content.MadeFor key := by
  have stored : cache.artifact? id = some artifact := by
    unfold Cache.answer? at answered
    rw [artifact?_eq_some_iff]
    split at answered
    · next ready =>
        obtain ⟨_, same⟩ := Option.ite_none_right_eq_some.mp answered
        cases same
        exact ready
    · split at answered <;> cases answered
    · contradiction
  exact ⟨stored, filed.artifact? found stored⟩

/-- The slot of a call takes what was made for its key, and all other slots stay as they are. -/
theorem Filed.settle (filed : inside.Filed)
    (own : ∀ entry ∈ inside.entries, entry.2 = slot → entry.1 = key)
    (compiles : CompilesInput key fingerprint outcome) {locked : List SlotId}
    (settles : Settles key slot fingerprint outcome locked inside after) : after.Filed := by
  rintro other artifact ⟨id, member, ready⟩
  have listed := settles.entries_sublist.subset member
  by_cases same : id = slot
  · subst same
    cases own _ listed rfl
    rw [settles.own] at ready
    cases outcome with
    | ok made =>
        cases ready
        exact compiles.madeFor
    | error error =>
        simp only [outcomeSlot] at ready
        split at ready
        · cases ready
        · exact filed other artifact ⟨id, listed, ready⟩
  · rw [settles.others id same] at ready
    exact filed other artifact ⟨id, listed, ready⟩

/-- Nobody holds the slot that a call for the key would use. -/
def Free (cache : Cache L) (key : String) : Prop :=
  (cache.slotFor key).2.isHeld (cache.slotFor key).1 = false

theorem free_of_idle (idle : cache.held = []) (key : String) : cache.Free key := by
  simp [Free, isHeld, idle]

end Cache

namespace Session

/-- The two ways in which a call comes to an answer: from the slot of its key, or by its compile. -/
inductive Obtains (session : Session L) (key : String) (fingerprint : Fingerprint)
    (compile : Session L → Option (Except TemplateError (Artifact L) × ρ × Session L)) :
    Except TemplateError (Shared (Artifact L)) → Option ρ → Session L → Prop where
  | answered (found : session.cache.find? key = some slot)
      (answer : session.cache.answer? slot fingerprint = some result)
      (same : after.cache = session.cache.touch key slot) :
      Obtains session key fingerprint compile result none after
  | compiled {held inside : Session L}
      (free : (session.cache.slotFor key).2.isHeld (session.cache.slotFor key).1 = false)
      (holds : held.cache = (session.cache.slotFor key).2.hold (session.cache.slotFor key).1)
      (ran : compile held = some (outcome, report, inside)) :
      Obtains session key fingerprint compile
        (inside.settle (session.cache.slotFor key).1 key fingerprint outcome).1 (some report)
        (inside.settle (session.cache.slotFor key).1 key fingerprint outcome).2

variable {session after : Session L} {key : String} {fingerprint : Fingerprint}

theorem obtains {compile : Session L → Option (Except TemplateError (Artifact L) × ρ × Session L)}
    {result : Except TemplateError (Shared (Artifact L))} {report : Option ρ}
    (obtained : session.obtain key fingerprint compile = some ((result, report), after)) :
    session.Obtains key fingerprint compile result report after := by
  unfold Session.obtain at obtained
  split at obtained
  · contradiction
  · contradiction
  · next acquire =>
      cases obtained
      cases acquires acquire with
      | answered found answer same => exact .answered found answer same
  · next acquire =>
      split at obtained
      · contradiction
      · next ran =>
          cases obtained
          cases acquires acquire with
          | granted free same => exact .compiled free same ran

end Session

namespace Session

variable {session after : Session L} {key : String} {fingerprint : Fingerprint}

/-- A call comes to an answer if nobody holds its slot and its compile does. -/
theorem exists_obtain_of_free (free : session.cache.Free key) (fingerprint : Fingerprint)
    (compile : Session L → Option (Except TemplateError (Artifact L) × ρ × Session L))
    (total : ∀ held, ∃ outcome report inside, compile held = some (outcome, report, inside)) :
    ∃ result report after, session.obtain key fingerprint compile = some ((result, report), after) := by
  have current : (session.cache.slotFor key).2.isCurrent key (session.cache.slotFor key).1 = true := by
    simp [Cache.isCurrent_iff, Cache.slotFor_find?]
  unfold Cache.Free at free
  unfold Session.obtain Session.acquire
  simp only [free, current, Bool.false_eq_true, if_false, Bool.not_true]
  cases (session.cache.slotFor key).2.answer? (session.cache.slotFor key).1 fingerprint with
  | some result => cases result <;> exact ⟨_, _, _, rfl⟩
  | none =>
      obtain ⟨outcome, report, inside, ran⟩ := total
        { session with cache := (session.cache.slotFor key).2.hold (session.cache.slotFor key).1 }
      simp only [ran]
      exact ⟨_, _, _, rfl⟩

/-- A look-up waits for nothing if nobody holds the slot of its key. -/
theorem exists_get_of_free (free : session.cache.Free key) :
    ∃ after, session.get key = some (session.cache.cached? key, after) := by
  unfold Session.get Cache.cached?
  cases found : session.cache.find? key with
  | none => exact ⟨_, rfl⟩
  | some slot =>
      rw [Cache.Free, Cache.slotFor_of_some found] at free
      simp only [free, Bool.false_eq_true, if_false]
      exact ⟨_, rfl⟩

theorem exists_obtain (idle : session.cache.held = []) (key : String) (fingerprint : Fingerprint)
    (compile : Session L → Option (Except TemplateError (Artifact L) × ρ × Session L))
    (total : ∀ held, ∃ outcome report inside, compile held = some (outcome, report, inside)) :
    ∃ result report after, session.obtain key fingerprint compile = some ((result, report), after) :=
  exists_obtain_of_free (Cache.free_of_idle idle key) fingerprint compile total

theorem exists_get (idle : session.cache.held = []) (key : String) :
    ∃ after, session.get key = some (session.cache.cached? key, after) :=
  exists_get_of_free (Cache.free_of_idle idle key)

/-- Between two calls no slot is held. -/
structure Tidy (session : Session L) : Prop where
  orderly : session.cache.Orderly
  idle : session.cache.held = []
  filed : session.cache.Filed

/-- What a call for a key leaves that comes to a result. -/
structure Files (key : String) (result : Except TemplateError (Shared (Artifact L)))
    (after : Session L) : Prop extends Tidy after where
  answer : ∀ artifact, result = .ok artifact → artifact.content.MadeFor key ∧
    ∃ later, after.get key = some (some artifact, later)

theorem Tidy.congr (tidy : session.Tidy) (same : after.cache = session.cache) : after.Tidy := by
  constructor
  all_goals rw [same]
  exacts [tidy.orderly, tidy.idle, tidy.filed]

theorem Tidy.touch (tidy : session.Tidy) {slot : SlotId} (found : session.cache.find? key = some slot)
    (same : after.cache = session.cache.touch key slot) : after.Tidy where
  orderly := same ▸ tidy.orderly.touch found
  idle := by rw [same]; exact tidy.idle
  filed := same ▸ tidy.filed.touch found

theorem Tidy.files_answer (tidy : session.Tidy) {slot : SlotId}
    (found : session.cache.find? key = some slot) {result : Except TemplateError (Shared (Artifact L))}
    (answer : session.cache.answer? slot fingerprint = some result)
    (same : after.cache = session.cache.touch key slot) : Files key result after := by
  have touched := tidy.touch found same
  refine ⟨touched, fun artifact ok => ?_⟩
  subst ok
  obtain ⟨stored, made⟩ := tidy.filed.answer? found answer
  obtain ⟨later, got⟩ := exists_get touched.idle key
  have listed : after.cache.find? key = some slot := by
    rw [same, Cache.touch_find? found]
    exact found
  have ready : (after.cache.slot slot).state = .ready artifact := by
    rw [same]
    exact Cache.artifact?_eq_some_iff.mp stored
  rw [Cache.cached?_of_find? listed ready] at got
  exact ⟨made, later, got⟩

/-- A session in which only the slot of a key is held, for a compile that leaves the cache alone. -/
structure Compiling (key : String) (slot : SlotId) (inside : Session L) : Prop where
  orderly : inside.cache.Orderly
  held : inside.cache.held = [slot]
  filed : inside.cache.Filed
  listed : inside.cache.find? key = some slot

theorem Tidy.compiling (tidy : session.Tidy) {inside : Session L}
    (kept : inside.cache = (session.cache.slotFor key).2.hold (session.cache.slotFor key).1) :
    Compiling key (session.cache.slotFor key).1 inside := by
  constructor
  all_goals rw [kept]
  · exact (tidy.orderly.slotFor key).hold (tidy.orderly.listed.slotFor_within key)
  · change (session.cache.slotFor key).1 :: (session.cache.slotFor key).2.held = _
    rw [Cache.slotFor_held, tidy.idle]
  · exact tidy.filed.slotFor key
  · exact (Cache.slotFor_find? session.cache key key).trans (if_pos rfl)

namespace Compiling

variable {inside : Session L} {slot : SlotId} {outcome : Except TemplateError (Artifact L)}

theorem settles (compiling : Compiling key slot inside) (fingerprint : Fingerprint)
    (outcome : Except TemplateError (Artifact L)) :
    Cache.Settles key slot fingerprint outcome inside.cache.held inside.cache
      (inside.settle slot key fingerprint outcome).2.cache :=
  settle_settles (compiling.orderly.made slot (by simp [compiling.held])) key fingerprint outcome

theorem tidy_settle (compiling : Compiling key slot inside)
    (compiles : CompilesInput key fingerprint outcome) :
    (inside.settle slot key fingerprint outcome).2.Tidy := by
  have settles := compiling.settles fingerprint outcome
  refine ⟨settles.orderly compiling.orderly (by simp [compiling.held]), ?_, ?_⟩
  · rw [settles.held, compiling.held]
    simp
  · refine compiling.filed.settle (fun entry member own => ?_) compiles settles
    by_contra different
    have other := Cache.mem_others.mpr ⟨member, different⟩
    exact compiling.orderly.listed.slot_ne compiling.listed other own

theorem files_outcome (compiling : Compiling key slot inside)
    (compiles : CompilesInput key fingerprint outcome) :
    Files key (inside.settle slot key fingerprint outcome).1
      (inside.settle slot key fingerprint outcome).2 := by
  have tidy := compiling.tidy_settle compiles
  have settles := compiling.settles fingerprint outcome
  refine ⟨tidy, fun artifact ok => ?_⟩
  cases outcome with
  | error error => cases ok
  | ok made =>
      cases ok
      have listed := settles.find?_own compiling.orderly.listed (by simp [compiling.held]) compiling.listed
      rw [if_neg fun drops => nomatch drops.2.1] at listed
      obtain ⟨later, got⟩ := exists_get tidy.idle key
      rw [Cache.cached?_of_find? listed (by rw [settles.own]; rfl)] at got
      exact ⟨compiles.madeFor, later, got⟩

end Compiling

theorem Tidy.getOrCompile (tidy : session.Tidy) (pipeline : Pipeline L) (input : CompileInput)
    (options : PipelineOptions) :
    ∃ result after, session.getOrCompile pipeline input options = some (result, after) ∧
      Files input.key result after := by
  obtain ⟨result, report, after, obtained⟩ := exists_obtain tidy.idle input.key input.fingerprint
    (fun session => some ((compileTemplate pipeline input options).1, (),
      session.recordAll (compileTemplate pipeline input options).2))
    fun held => ⟨_, (), _, rfl⟩
  have answers : session.getOrCompile pipeline input options = some (result, after) :=
    congrArg (Option.map fun answered : (_ × Option Unit) × _ => (answered.1.1, answered.2)) obtained
  refine ⟨result, after, answers, ?_⟩
  cases obtains obtained with
  | answered found answer same => exact tidy.files_answer found answer same
  | compiled free holds ran =>
      simp only [Option.some.injEq, Prod.mk.injEq] at ran
      obtain ⟨comes, _, rfl⟩ := ran
      apply Compiling.files_outcome _ ⟨pipeline, input, options, rfl, rfl, comes⟩
      exact tidy.compiling (by rw [recordAll_cache, holds])

end Session

theorem Session.get_filed {session after : Session L} {key : String} (filed : session.cache.Filed)
    {found : Option (Shared (Artifact L))} (got : session.get key = some (found, after)) :
    after.cache.Filed ∧ ∀ artifact, found = some artifact → artifact.content.MadeFor key := by
  simp only [Session.get] at got
  split at got
  · cases got
    exact ⟨filed, fun _ none => nomatch none⟩
  · next slot listed =>
      split at got
      · contradiction
      · cases got
        exact ⟨filed.touch listed, fun _ stored => filed.artifact? listed stored⟩

theorem Session.remove_filed {session : Session L} (filed : session.cache.Filed) (key : String) :
    (session.remove key).2.cache.Filed := by
  unfold Session.remove
  split
  · exact filed
  · exact filed.of_subset (fun _ member => (Cache.others_sublist _ key).subset member) fun _ => rfl

theorem Session.clear_filed (session : Session L) : session.clear.cache.Filed :=
  Cache.filed_of_empty rfl

namespace Request

mutual

theorem run_filed (request : Request L) {session after : Session L} {report : Report L}
    (compiles : request.CompilesInputs) (orderly : session.cache.Orderly)
    (filed : session.cache.Filed) (ran : request.run session = some (report, after)) : after.cache.Filed :=
  match request with
  | .obtain key fingerprint events during outcome => by
      simp only [run, Option.map_eq_some_iff] at ran
      obtain ⟨⟨⟨result, reports⟩, final⟩, obtained, same⟩ := ran
      cases same
      cases Session.obtains obtained with
      | answered found answer same => exact same ▸ filed.touch found
      | compiled free holds ran =>
          obtain ⟨⟨reports, inside⟩, calls, same⟩ := Option.map_eq_some_iff.mp ran
          cases same
          have within := orderly.listed.slotFor_within key
          have start := (orderly.slotFor key).hold within
          rw [← holds, ← Session.recordAll_cache] at start
          have kept := runAll_framed Cache.orderly_framed during calls start
          rw [Session.recordAll_cache, holds] at kept
          refine Cache.Filed.settle ?_ ?_ compiles.1
            (Session.settle_settles (Nat.lt_of_lt_of_le within kept.2.size) _ _ _)
          · refine runAll_filed during compiles.2 start ?_ calls
            rw [Session.recordAll_cache, holds]
            exact filed.slotFor key
          · intro entry member own
            rw [kept.2.listed_own orderly.listed member own]
  | .get key => by
      simp only [run, Option.map_eq_some_iff] at ran
      obtain ⟨⟨artifact, final⟩, got, same⟩ := ran
      cases same
      exact (Session.get_filed filed got).1
  | .contains key => by
      simp only [run, Session.contains, Option.map_map, Option.map_eq_some_iff] at ran
      obtain ⟨⟨artifact, final⟩, got, same⟩ := ran
      cases same
      exact (Session.get_filed filed got).1
  | .remove key => by
      cases ran
      exact Session.remove_filed filed key
  | .clear => by
      cases ran
      exact session.clear_filed

theorem runAll_filed (requests : List (Request L)) {session after : Session L}
    {reports : List (Report L)} (compile : AllCompileInputs requests) (orderly : session.cache.Orderly)
    (filed : session.cache.Filed) (ran : runAll session requests = some (reports, after)) :
    after.cache.Filed :=
  match requests with
  | [] => by
      cases ran
      exact filed
  | request :: rest => by
      simp only [runAll] at ran
      split at ran
      · contradiction
      · next report next first =>
          obtain ⟨⟨reports, final⟩, others, same⟩ := Option.map_eq_some_iff.mp ran
          cases same
          have kept := run_framed Cache.orderly_framed request first orderly
          exact runAll_filed rest compile.2 kept.1 (run_filed request compile.1 orderly filed first) others

end

end Request

/-- A request with all that its compiles call leaves a session tidy. -/
theorem Session.Tidy.run {session after : Session L} (tidy : session.Tidy) (request : Request L)
    (compiles : request.CompilesInputs) {report : Report L}
    (ran : request.run session = some (report, after)) : after.Tidy := by
  obtain ⟨orderly, spares⟩ := Request.run_framed Cache.orderly_framed request ran tidy.orderly
  exact ⟨orderly, spares.held.trans tidy.idle,
    Request.run_filed request compiles tidy.orderly tidy.filed ran⟩

/-! ## Many callers -/

def Call.CompilesInput : Call L → Prop
  | .obtain key fingerprint outcome => Templating.CompilesInput key fingerprint outcome
  | _ => True

/-- Callers who compile nothing but inputs file each artifact under its own key, in whatever order they
take their steps. -/
theorem Machine.Reachable.filed {capacity : Option Nat} {failurePolicy : FailurePolicy}
    {calls : List (Call L)} {machine : Machine L} (compile : ∀ call ∈ calls, call.CompilesInput)
    (reachable : Reachable (start (.create capacity failurePolicy) calls) machine) :
    machine.cache.Filed := by
  obtain ⟨owner, explained⟩ := reachable.explained
  rintro key artifact ⟨slot, member, ready⟩
  have recorded := explained.slots slot
  rw [ready, explained.owned.entries (key, slot) member] at recorded
  obtain ⟨fingerprint, asked⟩ := recorded
  exact CompilesInput.madeFor (compile _ asked)

end Templating
