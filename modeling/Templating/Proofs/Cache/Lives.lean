import Templating.Proofs.Cache.Views

/-!
What becomes of a cache whose compiles call it again.

`Lives` has one constructor for each thing that a session does between two points at which compiles may
run, so that the calls of a compile are not set beforehand: a compile that has begun may be followed by
anything, and it is the latest one that ends.  The compiles that run are listed, and with them the history
of all settlings.  What every such life keeps is `Kept`; in particular a vacant slot is listed only while
its compile runs.
-/

namespace Templating

variable {L : Type u}

/-- A call whose compile runs. -/
structure Pending where
  key : String
  fingerprint : Fingerprint
  slot : SlotId

namespace Session

inductive Lives (capacity : Option Nat) (failurePolicy : FailurePolicy) :
    List Pending → Settlements L → Session L → Prop where
  | create : Lives capacity failurePolicy [] [] { cache := .create capacity failurePolicy }
  | note (lives : Lives capacity failurePolicy pending settlements session) (event : Event) :
      Lives capacity failurePolicy pending settlements (session.record event)
  | answer (lives : Lives capacity failurePolicy pending settlements session)
      (acquire : session.acquire key fingerprint = some (.answered result, after)) :
      Lives capacity failurePolicy pending settlements after
  | begin (lives : Lives capacity failurePolicy pending settlements session)
      (acquire : session.acquire key fingerprint = some (.granted slot, held)) :
      Lives capacity failurePolicy (⟨key, fingerprint, slot⟩ :: pending) settlements held
  | finish (lives : Lives capacity failurePolicy (call :: pending) settlements session)
      (settles : session.settle call.slot call.key call.fingerprint outcome = (result, after)) :
      Lives capacity failurePolicy pending
        ((settlement? session.cache.failurePolicy call.slot call.fingerprint result).toList ++ settlements)
        after
  | look (lives : Lives capacity failurePolicy pending settlements session)
      (got : session.get key = some (artifact, after)) :
      Lives capacity failurePolicy pending settlements after
  | drop (lives : Lives capacity failurePolicy pending settlements session) (key : String) :
      Lives capacity failurePolicy pending settlements (session.remove key).2
  | empty (lives : Lives capacity failurePolicy pending settlements session) :
      Lives capacity failurePolicy pending settlements session.clear

/-- What is known of a session in which compiles run. -/
structure Kept (pending : List Pending) (settlements : Settlements L) (session : Session L) : Prop where
  orderly : session.cache.Orderly
  held : session.cache.held = pending.map Pending.slot
  state : ∀ slot, (session.cache.slot slot).state = settlements.last slot
  /-- The slot of a compile is listed for the key of its call or not at all. -/
  named : ∀ call ∈ pending, ∀ entry ∈ session.cache.entries,
    entry.2 = call.slot → entry.1 = call.key
  vacant : ∀ entry ∈ session.cache.entries, (session.cache.slot entry.2).state = .vacant →
    entry.2 ∈ session.cache.held

namespace Kept

variable {session after : Session L} {pending : List Pending} {settlements : Settlements L}
  {call : Pending} {key : String} {fingerprint : Fingerprint}

theorem create (capacity : Option Nat) (failurePolicy : FailurePolicy) :
    Kept [] [] ({ cache := .create capacity failurePolicy } : Session L) where
  orderly := Cache.create_orderly capacity failurePolicy
  held := rfl
  state := fun slot => by simp [Cache.create, Cache.slot]
  named := fun _ member => absurd member List.not_mem_nil
  vacant := fun _ member => absurd member List.not_mem_nil

/-- All that leaves the slots alone and lists no others keeps what is known. -/
theorem of_subset (kept : Kept pending settlements session) (orderly : after.cache.Orderly)
    (held : after.cache.held = session.cache.held) (slots : after.cache.slots = session.cache.slots)
    (fewer : ∀ entry ∈ after.cache.entries, entry ∈ session.cache.entries) :
    Kept pending settlements after := by
  have same : ∀ slot, after.cache.slot slot = session.cache.slot slot := fun slot => by
    rw [Cache.slot, slots, Cache.slot]
  refine ⟨orderly, held.trans kept.held, fun slot => same slot ▸ kept.state slot,
    fun call member entry listed => kept.named call member entry (fewer entry listed), ?_⟩
  intro entry listed vacant
  rw [held]
  exact kept.vacant entry (fewer entry listed) (same entry.2 ▸ vacant)

theorem of_sublist (kept : Kept pending settlements session) {entries : List (String × SlotId)}
    (same : after.cache = { session.cache with entries }) (fewer : entries.Sublist session.cache.entries) :
    Kept pending settlements after :=
  kept.of_subset (same ▸ kept.orderly.of_sublist fewer) (same ▸ rfl) (same ▸ rfl)
    (same ▸ fun _ member => fewer.subset member)

theorem touch (kept : Kept pending settlements session) {slot : SlotId}
    (found : session.cache.find? key = some slot) (same : after.cache = session.cache.touch key slot) :
    Kept pending settlements after :=
  kept.of_subset (same ▸ kept.orderly.touch found) (same ▸ rfl) (same ▸ rfl)
    (same ▸ fun _ => (kept.orderly.listed.touch_perm found).mem_iff.mp)

theorem begin (kept : Kept pending settlements session) {held : Session L} {slot : SlotId}
    (acquires : session.Acquires key fingerprint (.granted slot) held) :
    Kept (⟨key, fingerprint, slot⟩ :: pending) settlements held := by
  cases acquires with
  | granted free same =>
      have listed := kept.orderly.listed
      have unheld : (session.cache.slotFor key).1 ∉ session.cache.held := by
        simpa [Cache.isHeld] using free
      have slots : ∀ slot, held.cache.slot slot = session.cache.slot slot := fun slot => by
        rw [same]
        exact Cache.slot_slotFor session.cache key slot
      have locks : held.cache.held = (session.cache.slotFor key).1 :: session.cache.held := by
        simp [same, Cache.hold]
      -- An entry is one of the old ones for another key, or that of the call.
      have split : ∀ entry ∈ held.cache.entries,
          entry ∈ session.cache.others key ∨ entry = (key, (session.cache.slotFor key).1) := by
        intro entry member
        rw [same] at member
        have member : entry ∈ (session.cache.slotFor key).2.entries := member
        rw [Cache.slotFor_entries] at member
        simpa using member
      refine ⟨?orderly, ?held, fun slot => slots slot ▸ kept.state slot, ?named, ?vacant⟩
      case orderly =>
        rw [same]
        exact (kept.orderly.slotFor key).hold (listed.slotFor_within key)
      case held => rw [locks, kept.held, List.map_cons]
      case named =>
        intro call member entry there own
        rcases List.mem_cons.mp member with rfl | older
        · rcases split entry there with other | rfl
          · exact absurd own (listed.slotFor_fresh key entry other)
          · rfl
        · rcases split entry there with other | rfl
          · exact kept.named call older entry (Cache.mem_others.mp other).1 own
          · refine absurd ?_ unheld
            rw [show (session.cache.slotFor key).1 = call.slot from own, kept.held]
            exact List.mem_map_of_mem older
      case vacant =>
        intro entry there empty
        rw [locks]
        rcases split entry there with other | rfl
        · rw [slots] at empty
          exact List.mem_cons_of_mem _ (kept.vacant entry (Cache.mem_others.mp other).1 empty)
        · exact List.mem_cons_self

/-- A call that ends settles its slot to what the slot holds then. -/
theorem last_settle (kept : Kept pending settlements session) (slot : SlotId) (key : String)
    (fingerprint : Fingerprint) (outcome : Except TemplateError (Artifact L)) (other : SlotId) :
    Settlements.last ((settlement? session.cache.failurePolicy slot fingerprint
        (session.settle slot key fingerprint outcome).1).toList ++ settlements) other =
      if other = slot then (session.cache.outcomeSlot slot fingerprint outcome).state
      else settlements.last other := by
  have own (state : SlotState L) : Settlements.last ((slot, state) :: settlements) other =
      if other = slot then state else settlements.last other := by
    split
    · next same => rw [same, Settlements.last_cons_self]
    · next different => exact Settlements.last_cons_of_ne different
  cases outcome with
  | ok artifact => exact own (.ready ⟨session.cache.published, artifact⟩)
  | error error =>
      cases policy : session.cache.failurePolicy with
      | remember =>
          simp only [Cache.outcomeSlot, policy]
          exact own (.failed fingerprint error)
      | retry =>
          simp only [Cache.outcomeSlot, policy]
          split
          · next same => rw [same, kept.state]; rfl
          · rfl

theorem finish (kept : Kept (call :: pending) settlements session)
    (outcome : Except TemplateError (Artifact L)) :
    Kept pending
      ((settlement? session.cache.failurePolicy call.slot call.fingerprint
        (session.settle call.slot call.key call.fingerprint outcome).1).toList ++ settlements)
      (session.settle call.slot call.key call.fingerprint outcome).2 := by
  have holds : call.slot ∈ session.cache.held := by simp [kept.held]
  have settles := settle_settles (kept.orderly.made call.slot holds) call.key call.fingerprint outcome
  have fewer := settles.entries_sublist
  have locks : (session.settle call.slot call.key call.fingerprint outcome).2.cache.held =
      pending.map Pending.slot := by
    rw [settles.held, kept.held, List.map_cons, List.erase_cons_head]
  refine ⟨settles.orderly kept.orderly holds, locks, fun slot => ?state, ?named, ?vacant⟩
  case state =>
    rw [kept.last_settle]
    split
    · next same => rw [same, settles.own]
    · next different => rw [settles.others slot different, kept.state]
  case named =>
    exact fun older member entry there => kept.named older (List.mem_cons_of_mem _ member) entry
      (fewer.subset there)
  case vacant =>
    intro entry there empty
    have before := fewer.subset there
    by_cases same : entry.2 = call.slot
    · -- A slot that is still vacant has left the list.
      have named := kept.named call List.mem_cons_self entry before same
      have current : session.cache.find? call.key = some call.slot :=
        kept.orderly.listed.find?_eq_some_iff.mpr (by rwa [← named, ← same])
      rw [same, settles.own] at empty
      have drops : session.cache.Drops call.key call.slot outcome := by
        cases outcome with
        | ok artifact => cases empty
        | error error =>
            cases policy : session.cache.failurePolicy with
            | remember => simp [Cache.outcomeSlot, policy] at empty
            | retry =>
                simp only [Cache.outcomeSlot, policy] at empty
                exact ⟨policy, rfl, by rw [empty, SlotState.status], current⟩
      have left := settles.entries
      rw [Cache.outcomeEntries, if_pos drops] at left
      rw [left] at there
      have other := Cache.mem_others.mp ((Cache.trimmed_sublist _ _ _).subset there)
      exact absurd named other.2
    · rw [settles.others entry.2 same] at empty
      have older := kept.vacant entry before empty
      rw [kept.held, List.map_cons] at older
      rw [locks]
      exact (List.mem_cons.mp older).resolve_left same

theorem look (kept : Kept pending settlements session) {artifact : Option (Shared (Artifact L))}
    (got : session.get key = some (artifact, after)) : Kept pending settlements after := by
  simp only [Session.get] at got
  split at got
  · cases got
    exact kept
  · next slot found =>
      split at got
      · contradiction
      · cases got
        exact kept.touch found rfl

end Kept

variable {capacity : Option Nat} {failurePolicy : FailurePolicy} {pending : List Pending}
  {settlements : Settlements L} {session : Session L}

theorem Lives.kept (lives : Lives capacity failurePolicy pending settlements session) :
    Kept pending settlements session := by
  induction lives with
  | create => exact .create capacity failurePolicy
  | note _ event kept =>
      exact kept.of_subset kept.orderly rfl rfl fun _ member => member
  | answer _ acquire kept =>
      cases acquires acquire with
      | answered found _ same => exact kept.touch found same
  | begin _ acquire kept => exact kept.begin (acquires acquire)
  | @finish _ _ _ _ outcome _ _ _ settles kept =>
      have finished := kept.finish outcome
      rw [settles] at finished
      exact finished
  | look _ got kept => exact kept.look got
  | @drop _ _ session _ key kept =>
      unfold Session.remove
      split
      · exact kept
      · exact kept.of_sublist rfl (session.cache.others_sublist key)
  | empty _ kept => exact kept.of_sublist rfl (List.nil_sublist _)

/-- While compiles run the views of a cache follow what its slots last settled to. -/
theorem Kept.follows (kept : Kept pending settlements session) :
    session.cache.Follows settlements fun _ => False :=
  kept.orderly.listed.follows (fun slot => by rw [kept.orderly.mirrored, kept.state])
    fun slot _ => kept.state slot

theorem Kept.agrees (kept : Kept [] settlements session) : session.cache.Agrees :=
  kept.orderly.listed.agrees kept.orderly.mirrored fun entry member vacant => by
    have state : (session.cache.slot entry.2).state = .vacant := by
      rwa [kept.orderly.mirrored, SlotState.status_eq_vacant_iff] at vacant
    have holds := kept.vacant entry member state
    rw [kept.held] at holds
    exact List.not_mem_nil holds

/-! ## Whole calls -/

theorem Lives.noteAll (lives : Lives capacity failurePolicy pending settlements session)
    (events : List Event) : Lives capacity failurePolicy pending settlements (session.recordAll events) := by
  induction events generalizing session with
  | nil => exact lives
  | cons event rest ih => exact ih (lives.note event)

/-- A call whose compile lives on from where it begins lives on itself. -/
theorem Lives.obtain (lives : Lives capacity failurePolicy pending settlements session) {key : String}
    {fingerprint : Fingerprint} {result : Except TemplateError (Shared (Artifact L))} {report : Option ρ}
    {after : Session L}
    {compile : Session L → Option (Except TemplateError (Artifact L) × ρ × Session L)}
    (inner : ∀ {call held outcome report inside},
      Lives capacity failurePolicy (call :: pending) settlements held →
      compile held = some (outcome, report, inside) →
      ∃ settlements, Lives capacity failurePolicy (call :: pending) settlements inside)
    (obtains : session.obtain key fingerprint compile = some ((result, report), after)) :
    ∃ settlements, Lives capacity failurePolicy pending settlements after := by
  unfold Session.obtain at obtains
  split at obtains
  · contradiction
  · contradiction
  · next acquire =>
      cases obtains
      exact ⟨settlements, lives.answer acquire⟩
  · next acquire =>
      split at obtains
      · contradiction
      · next ran =>
          cases obtains
          obtain ⟨_, inside⟩ := inner (lives.begin acquire) ran
          exact ⟨_, inside.finish rfl⟩

theorem Lives.getOrCompile (lives : Lives capacity failurePolicy pending settlements session)
    {pipeline : Pipeline L} {input : CompileInput} {options : PipelineOptions}
    {result : Except TemplateError (Shared (Artifact L))} {after : Session L}
    (obtains : session.getOrCompile pipeline input options = some (result, after)) :
    ∃ settlements, Lives capacity failurePolicy pending settlements after := by
  obtain ⟨⟨⟨result, report⟩, final⟩, obtained, same⟩ := Option.map_eq_some_iff.mp obtains
  cases same
  refine lives.obtain (fun held ran => ?_) obtained
  cases ran
  exact ⟨_, held.noteAll _⟩

end Session

namespace Request

open Session (Lives)

variable {capacity : Option Nat} {failurePolicy : FailurePolicy}

mutual

theorem run_lives (request : Request L) {session after : Session L} {report : Report L}
    {pending : List Pending} {settlements : Settlements L}
    (lives : Lives capacity failurePolicy pending settlements session)
    (ran : request.run session = some (report, after)) :
    ∃ settlements, Lives capacity failurePolicy pending settlements after :=
  match request with
  | .obtain key fingerprint events during outcome => by
      simp only [run, Option.map_eq_some_iff] at ran
      obtain ⟨⟨⟨result, reports⟩, final⟩, obtains, same⟩ := ran
      cases same
      refine lives.obtain (fun held compiled => ?_) obtains
      obtain ⟨⟨reports, inside⟩, calls, same⟩ := Option.map_eq_some_iff.mp compiled
      cases same
      exact runAll_lives during (held.noteAll events) calls
  | .get key => by
      simp only [run, Option.map_eq_some_iff] at ran
      obtain ⟨⟨artifact, final⟩, got, same⟩ := ran
      cases same
      exact ⟨settlements, lives.look got⟩
  | .contains key => by
      simp only [run, Session.contains, Option.map_map, Option.map_eq_some_iff] at ran
      obtain ⟨⟨artifact, final⟩, got, same⟩ := ran
      cases same
      exact ⟨settlements, lives.look got⟩
  | .remove key => by
      simp only [run, Option.some.injEq, Prod.mk.injEq] at ran
      obtain ⟨_, rfl⟩ := ran
      exact ⟨settlements, lives.drop key⟩
  | .clear => by
      cases ran
      exact ⟨settlements, lives.empty⟩

theorem runAll_lives (requests : List (Request L)) {session after : Session L}
    {reports : List (Report L)} {pending : List Pending} {settlements : Settlements L}
    (lives : Lives capacity failurePolicy pending settlements session)
    (ran : runAll session requests = some (reports, after)) :
    ∃ settlements, Lives capacity failurePolicy pending settlements after :=
  match requests with
  | [] => by
      cases ran
      exact ⟨settlements, lives⟩
  | request :: rest => by
      simp only [runAll] at ran
      split at ran
      · contradiction
      · next first =>
          obtain ⟨⟨reports, final⟩, others, same⟩ := Option.map_eq_some_iff.mp ran
          cases same
          obtain ⟨_, next⟩ := run_lives request lives first
          exact runAll_lives rest next others

end

/-- A session that comes by while requests are run lives, with the compiles that run in it. -/
theorem Visits.lives {session met : Session L} {requests : List (Request L)} {locks : List SlotId}
    {pending : List Pending} {settlements : Settlements L} (visits : Visits session requests locks met)
    (lives : Lives capacity failurePolicy pending settlements session) :
    ∃ running settlements, Lives capacity failurePolicy (running ++ pending) settlements met ∧
      running.map Pending.slot = locks := by
  induction visits generalizing pending settlements with
  | now => exact ⟨[], settlements, lives, rfl⟩
  | later ran _ ih =>
      obtain ⟨_, next⟩ := run_lives _ lives ran
      exact ih next
  | within granted _ ih =>
      obtain ⟨running, settlements, met, locks⟩ := ih ((lives.begin granted).noteAll _)
      exact ⟨running ++ [_], settlements, by simpa using met, by simp [locks]⟩

end Request
end Templating
