import Templating.Proofs.Cache.Nesting

/-!
What a cache keeps to while compiles call it again.

A slot that is compiled anew is settled and held at once, and cannot be evicted.  So a cache may
exceed its capacity while compiles run, though by no more slots than compiles, and each call that
ends brings it back.  A call that ends knows its slot and not its key: what the calls of its compile
have listed for the key in the meantime is none of its business.
-/

namespace Templating

variable {L : Type u}

namespace Cache

variable {cache inside after : Cache L} {key : String} {slot : SlotId} {fingerprint : Fingerprint}
  {outcome : Except TemplateError (Artifact L)} {locked : List SlotId}

theorem mem_spared_of_not_victim {victim : α → Bool} {entry : α} {entries : List α}
    (member : entry ∈ entries) (isSpared : victim entry = false) (count : Nat) :
    entry ∈ spared victim count entries := by
  induction entries generalizing count with
  | nil => exact absurd member List.not_mem_nil
  | cons first rest ih =>
      cases isVictim : victim first with
      | true =>
          have later : entry ∈ rest := by
            rcases List.mem_cons.mp member with rfl | later
            · simp [isSpared] at isVictim
            · exact later
          cases count with
          | zero => exact member
          | succ count =>
              rw [spared_cons_of_victim isVictim]
              exact ih later count
      | false =>
          rw [spared_cons_of_not_victim isVictim]
          rcases List.mem_cons.mp member with rfl | later
          · exact List.mem_cons_self
          · exact List.mem_cons_of_mem _ (ih later count)

theorem mem_trimmed_of_locked {entries : List (String × SlotId)} {entry : String × SlotId}
    (member : entry ∈ entries) (holds : entry.2 ∈ locked) : entry ∈ cache.trimmed locked entries := by
  unfold trimmed
  split
  · exact member
  · exact mem_spared_of_not_victim member (by simp [holds]) _

/-- The slot that a call compiles for is listed for its key or not at all. -/
theorem Spares.listed_own (spares : Spares ((cache.slotFor key).2.hold (cache.slotFor key).1) inside)
    (listed : cache.Listed) {entry : String × SlotId} (member : entry ∈ inside.entries)
    (own : entry.2 = (cache.slotFor key).1) : entry = (key, (cache.slotFor key).1) := by
  have old : entry.2 < (cache.slotFor key).2.slots.size := own ▸ listed.slotFor_within key
  have before : entry ∈ (cache.slotFor key).2.entries := spares.lists entry member old
  rw [slotFor_entries] at before
  rcases List.mem_append.mp before with other | last
  · exact absurd own (listed.slotFor_fresh key entry other)
  · exact List.mem_singleton.mp last

/-- A call whose slot is still listed for its key takes it off the list or leaves it there. -/
theorem Settles.find?_own (settles : Settles key slot fingerprint outcome locked inside after)
    (listed : inside.Listed) (holds : slot ∈ locked) (current : inside.find? key = some slot) :
    after.find? key = if inside.Drops key slot outcome then none else some slot := by
  have fewer := settles.entries_sublist
  split
  · next drops =>
      have entries : after.entries.Sublist (inside.others key) := by
        have left := settles.entries
        rw [outcomeEntries, if_pos drops] at left
        exact left ▸ trimmed_sublist _ _ _
      refine List.lookup_eq_none_iff.mpr fun entry member => ?_
      have other : entry.1 ≠ key := (mem_others.mp (entries.subset member)).2
      simpa using other.symm
  · next stays =>
      have entry : (key, slot) ∈ after.entries := by
        rw [settles.entries, outcomeEntries, if_neg stays]
        exact mem_trimmed_of_locked (mem_of_find? current) holds
      exact (listed.of_sublist fewer).find?_eq_some_iff.mpr entry

theorem Settles.rest (settles : Settles key slot fingerprint outcome locked inside after)
    (gone : ∀ entry ∈ inside.entries, entry.2 ≠ slot) (unlisted : inside.find? key ≠ some slot) :
    after.entries = after.trimmed locked inside.entries ∧
      ∀ entry ∈ inside.entries, after.slot entry.2 = inside.slot entry.2 := by
  have stays : ¬ inside.Drops key slot outcome := fun drops => unlisted drops.2.2.2
  have entries := settles.entries
  rw [outcomeEntries, if_neg stays] at entries
  exact ⟨entries, fun entry member => settles.others entry.2 (gone entry member)⟩

end Cache

namespace Session

variable {session : Session L}

theorem settle_result (slot : SlotId) (key : String) (fingerprint : Fingerprint)
    (outcome : Except TemplateError (Artifact L)) :
    (session.settle slot key fingerprint outcome).1.map Shared.content = outcome := by
  cases outcome <;> rfl

end Session

namespace Request.Visits

variable {session : Session L} {locks : List SlotId}

/-- While compiles run a cache lists no more artifacts and remembered failures than its capacity, or
one more than there are compiles, whichever is more. -/
theorem filled_le (capacity : Nat) (positive : 1 ≤ capacity) (failurePolicy : FailurePolicy)
    (requests : List (Request L))
    (visits : Visits { cache := .create (some capacity) failurePolicy } requests locks session) :
    session.cache.filled ≤ max capacity (locks.length + 1) ∧
      (locks = [] → session.cache.filled ≤ capacity ∧ session.cache.size ≤ capacity) := by
  have created : (Cache.create (some capacity) failurePolicy : Cache L).capacity = some capacity := by
    simp [Cache.create]
    omega
  obtain ⟨orderly, held, bound, -⟩ := visits.orderly (Cache.create_orderly _ _)
  have count : session.cache.settledCount ≤ max capacity (locks.length + 1) := by
    have bounded := orderly.bounded capacity (bound.trans created)
    have holds : session.cache.held.length = locks.length := by simp [held, Cache.create]
    rwa [holds] at bounded
  rw [orderly.filled_eq]
  refine ⟨count, ?_⟩
  intro idle
  have few : session.cache.settledCount ≤ capacity := by
    simp only [idle, List.length_nil] at count
    omega
  exact ⟨few, Nat.le_trans session.cache.size_le_settledCount few⟩

def version (number : UInt32) : Fingerprint :=
  ⟨{ Sha256.initial with a := number }⟩

def compiles (key : String) (number : UInt32) (during : List (Request Nat)) : Request Nat :=
  .obtain key (version number) [] during (.ok ⟨key, version number, .dynamic, none, "source", 1⟩)

/-- The page is compiled anew, and its compile fills the cache with a part. -/
theorem recompiled_filled_le :
    ∃ locks session,
      Visits { cache := .create (some 1) .retry }
        [compiles "page" 1 [], compiles "page" 2 [compiles "part" 1 []]] locks session ∧
      locks.length = 1 ∧ session.cache.filled = 2 ∧ 1 ≤ 1 ∧
      session.cache.filled ≤ max 1 (locks.length + 1) := by
  have evaluated :
      ((compiles "page" 1 []).run { cache := .create (some 1) .retry }).any (fun (_, next) =>
        (next.acquire "page" (version 2)).any fun
          | (.granted _, held) =>
              ((compiles "part" 1 []).run (held.recordAll [])).any fun (_, met) =>
                met.cache.filled = 2
          | _ => false) = true := by decide +kernel
  obtain ⟨⟨report, next⟩, first, evaluated⟩ := (Option.any_eq_true _ _).mp evaluated
  obtain ⟨⟨acquired, held⟩, acquires, evaluated⟩ := (Option.any_eq_true _ _).mp evaluated
  cases acquired with
  | outdated => contradiction
  | answered result => contradiction
  | granted slot =>
      obtain ⟨⟨report, met⟩, second, evaluated⟩ := (Option.any_eq_true _ _).mp evaluated
      have visits : Visits { cache := .create (some 1) .retry }
          [compiles "page" 1 [], compiles "page" 2 [compiles "part" 1 []]] [slot] met :=
        .later first (.within acquires (.later second .now))
      have bounded := filled_le 1 (Nat.le_refl 1) .retry _ visits
      exact ⟨[slot], met, visits, rfl, of_decide_eq_true evaluated, Nat.le_refl 1, bounded.1⟩

/-- A call that compiles gives what its compile came to, and changes what the calls of its compile
have left only in its own slot and by evictions. -/
theorem run_settles (capacity : Option Nat) (failurePolicy : FailurePolicy) (requests : List (Request L))
    (visits : Visits { cache := .create capacity failurePolicy } requests locks session)
    {key : String} {fingerprint : Fingerprint} {events : List Event} {during : List (Request L)}
    {slot : SlotId} {held inside : Session L} {reports : List (Report L)}
    (granted : session.acquire key fingerprint = some (.granted slot, held))
    (calls : runAll (held.recordAll events) during = some (reports, inside))
    (outcome : Except TemplateError (Artifact L)) :
    ∃ result after,
      run session (.obtain key fingerprint events during outcome) =
        some (.obtained result (some reports) after.cache, after) ∧
      result.map Shared.content = outcome ∧
      inside.cache.slot slot = session.cache.slot slot ∧
      (failurePolicy = .retry → (session.cache.slot slot).state.status ≠ .failed) ∧
      Cache.Settles key slot fingerprint outcome (slot :: locks) inside.cache after.cache ∧
      (inside.cache.find? key = some slot →
        after.cache.find? key = if inside.cache.Drops key slot outcome then none else some slot) ∧
      (inside.cache.find? key ≠ some slot →
        after.cache.entries = after.cache.trimmed (slot :: locks) inside.cache.entries ∧
        ∀ entry ∈ inside.cache.entries, after.cache.slot entry.2 = inside.cache.slot entry.2) := by
  obtain ⟨orderly, locked, -, remembers⟩ := visits.orderly (Cache.create_orderly _ _)
  cases Session.acquires granted with
  | granted free same =>
      have within := orderly.listed.slotFor_within key
      obtain ⟨kept, spares⟩ := runAll_framed Cache.orderly_framed during calls (by
        rw [Session.recordAll_cache, same]
        exact (orderly.slotFor key).hold within)
      rw [Session.recordAll_cache, same] at spares
      have settles := Session.settle_settles (Nat.lt_of_lt_of_le within spares.size) key fingerprint
        outcome
      have holds : inside.cache.held = (session.cache.slotFor key).1 :: locks := by
        simpa [locked, Cache.create] using spares.own.1
      rw [holds] at settles
      have current := settles.find?_own kept.listed List.mem_cons_self
      refine ⟨(inside.settle (session.cache.slotFor key).1 key fingerprint outcome).1,
        (inside.settle (session.cache.slotFor key).1 key fingerprint outcome).2, ?ran,
        Session.settle_result _ _ _ _, spares.own.2, ?never, settles, current, ?gone⟩
      case ran => simp [run, Session.obtain, granted, calls]
      case never =>
        intro retry
        have policy : session.cache.failurePolicy = .retry := remembers.trans retry
        have status := orderly.forgets policy (session.cache.slotFor key).1
        rwa [orderly.mirrored] at status
      case gone =>
        intro unlisted
        refine settles.rest (fun entry member own => unlisted ?_) unlisted
        have listed := spares.listed_own orderly.listed member own
        exact kept.listed.find?_eq_some_iff.mpr (listed ▸ member)

/-- The compile of a page drops the page and compiles it anew before it fails. -/
theorem replaced_run_settles :
    ∃ held reports inside,
      Visits ({ cache := .create none .retry } : Session Nat) [] [] { cache := .create none .retry } ∧
      Session.acquire { cache := .create none .retry } "page" (version 1) = some (.granted 0, held) ∧
      runAll (held.recordAll []) [.remove "page", compiles "page" 2 []] = some (reports, inside) ∧
      ∃ result after,
        run { cache := .create none .retry } (.obtain "page" (version 1) []
          [.remove "page", compiles "page" 2 []] (.error (.generation []))) =
            some (.obtained result (some reports) after.cache, after) ∧
        result.map Shared.content = .error (.generation []) ∧
        after.cache.entries = [("page", 1)] ∧ after.cache.slot 1 = inside.cache.slot 1 := by
  have evaluated :
      (Session.acquire ({ cache := .create none .retry } : Session Nat) "page" (version 1)).any (fun
        | (.granted slot, held) =>
            slot = 0 && (runAll (held.recordAll []) [.remove "page", compiles "page" 2 []]).any
              fun (_, inside) =>
                inside.cache.entries = [("page", 1)] ∧ inside.cache.capacity = none ∧
                  inside.cache.find? "page" = some 1
        | _ => false) = true := by decide +kernel
  obtain ⟨⟨acquired, held⟩, granted, evaluated⟩ := (Option.any_eq_true _ _).mp evaluated
  cases acquired with
  | outdated => contradiction
  | answered result => contradiction
  | granted slot =>
      obtain ⟨first, evaluated⟩ := Bool.and_eq_true_iff.mp evaluated
      obtain rfl : slot = 0 := of_decide_eq_true first
      obtain ⟨⟨reports, inside⟩, calls, left⟩ := (Option.any_eq_true _ _).mp evaluated
      obtain ⟨entries, unbounded, found⟩ := of_decide_eq_true left
      obtain ⟨result, after, ran, content, -, -, settles, -, gone⟩ :=
        run_settles none .retry [] .now granted calls (.error (.generation []))
      obtain ⟨left, slots⟩ := gone (by simp [found])
      have all : after.cache.entries = inside.cache.entries := by
        rw [left, Cache.trimmed, settles.capacity, unbounded]
      exact ⟨held, reports, inside, .now, granted, calls, result, after, ran, content,
        all.trans entries, slots ("page", 1) (by simp [entries])⟩

end Request.Visits

end Templating
