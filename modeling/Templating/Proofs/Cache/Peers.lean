import Templating.Proofs.Cache.Owners
import Templating.Proofs.Cache.Settling

/-!
Two sessions that differ in their journals.

No call reads the journal.  Two sessions with one cache therefore give the same answers and are left
with one cache again.  An artifact in the cache, or in an answer, is one that the cache held before or
one that was compiled, so that what holds of all of these is said along the way.
-/

namespace Templating

variable {L : Type u} {ρ : Type v} {α : Type w}

/-- All artifacts that a cache lists are as `Good` says. -/
def Cache.Holds (Good : Artifact L → Prop) (cache : Cache L) : Prop :=
  ∀ entry ∈ cache.entries, ∀ artifact, (cache.slot entry.2).state = .ready artifact →
    Good artifact.content

structure Session.Peers (Good : Artifact L → Prop) (session session' : Session L) : Prop where
  cache : session.cache = session'.cache
  holds : session.cache.Holds Good

/-- The same answer in two sessions, which fits what may be answered and leaves peers. -/
def Session.Agree (Good : Artifact L → Prop) (Fits : α → Prop) :
    Option (α × Session L) → Option (α × Session L) → Prop :=
  Option.Rel fun given given' =>
    given.1 = given'.1 ∧ Fits given.1 ∧ Session.Peers Good given.2 given'.2

def IfOk (Fits : α → Prop) (result : Except ε α) : Prop :=
  ∀ value, result = .ok value → Fits value

namespace Cache

variable {Good : Artifact L → Prop} {cache : Cache L} {key : String} {id : SlotId}

theorem Holds.of_subset {cache' : Cache L} (holds : cache.Holds Good)
    (fewer : ∀ entry ∈ cache'.entries, entry ∈ cache.entries)
    (same : ∀ id, (cache'.slot id).state = (cache.slot id).state) : cache'.Holds Good :=
  fun entry member artifact ready => holds entry (fewer entry member) artifact (same entry.2 ▸ ready)

theorem Holds.slotFor (holds : cache.Holds Good) (key : String) : (cache.slotFor key).2.Holds Good := by
  intro entry member artifact ready
  rw [slot_slotFor] at ready
  rw [slotFor_entries] at member
  rcases List.mem_append.mp member with old | last
  · exact holds entry ((others_sublist cache key).subset old) artifact ready
  · cases List.mem_singleton.mp last
    cases found : cache.find? key with
    | some id =>
        rw [slotFor_of_some found] at ready
        exact holds (key, id) (mem_of_find? found) artifact ready
    | none =>
        rw [slotFor_of_none found, slot_of_size_le (Nat.le_refl _)] at ready
        cases ready

theorem Holds.touch (holds : cache.Holds Good) (found : cache.find? key = some id) :
    (cache.touch key id).Holds Good := by
  have made := holds.slotFor key
  rwa [slotFor_of_some found] at made

theorem Holds.answer? (holds : cache.Holds Good) (listed : (key, id) ∈ cache.entries)
    {fingerprint : Fingerprint} {answer : Except TemplateError (Shared (Artifact L))}
    (answered : cache.answer? id fingerprint = some answer) :
    IfOk (fun artifact => Good artifact.content) answer := by
  intro artifact same
  subst same
  unfold Cache.answer? at answered
  split at answered
  · next stored ready =>
      split at answered
      · cases answered
        exact holds _ listed _ ready
      · contradiction
  · split at answered <;> cases answered
  · contradiction

theorem Holds.artifact? (holds : cache.Holds Good) (listed : (key, id) ∈ cache.entries)
    {artifact : Shared (Artifact L)} (found : cache.artifact? id = some artifact) :
    Good artifact.content := by
  unfold Cache.artifact? at found
  split at found
  · next ready =>
      cases found
      exact holds _ listed _ ready
  · contradiction

theorem Holds.write_publish (holds : cache.Holds Good) {state : SlotState L}
    (good : ∀ artifact, state = .ready artifact → Good artifact.content) :
    ((cache.write id state).publish id).Holds Good := by
  intro entry member artifact ready
  rw [slot_publish_state, Cache.write, slot_setSlot] at ready
  split at ready
  · exact good artifact ready
  · exact holds entry member artifact ready

end Cache

namespace Session

variable {Good : Artifact L → Prop} {session session' : Session L} {key : String}
  {fingerprint : Fingerprint}

theorem Peers.record (peers : Peers Good session session') (event event' : Event) :
    Peers Good (session.record event) (session'.record event') :=
  ⟨peers.cache, peers.holds⟩

theorem Peers.recordAll (peers : Peers Good session session') (events events' : List Event) :
    Peers Good (session.recordAll events) (session'.recordAll events') := by
  refine ⟨?_, ?_⟩
  · rw [recordAll_cache, recordAll_cache, peers.cache]
  · rw [recordAll_cache]
    exact peers.holds

theorem acquire_peers (peers : Peers Good session session') (key : String)
    (fingerprint : Fingerprint) :
    Agree Good
      (fun
        | .answered result => IfOk (fun artifact => Good artifact.content) result
        | _ => True)
      (session.acquire key fingerprint) (session'.acquire key fingerprint) := by
  have looked := peers.holds.slotFor key
  have listed : (key, (session.cache.slotFor key).1) ∈ (session.cache.slotFor key).2.entries := by
    simp [Cache.slotFor_entries]
  have hit {answer} (answered : (session.cache.slotFor key).2.answer? (session.cache.slotFor key).1
      fingerprint = some answer) := looked.answer? listed answered
  obtain ⟨cache, journal⟩ := session
  obtain ⟨_, journal'⟩ := session'
  obtain rfl := peers.cache
  simp only [acquire]
  split
  · exact .none
  · split
    · exact .some ⟨rfl, trivial, rfl, looked⟩
    · split
      · next answered => exact .some ⟨rfl, hit answered, rfl, looked⟩
      · next answered => exact .some ⟨rfl, hit answered, rfl, looked⟩
      · exact .some ⟨rfl, trivial, rfl, looked⟩

theorem settle_peers (peers : Peers Good session session') (slot : SlotId) (key : String)
    (fingerprint : Fingerprint) {outcome : Except TemplateError (Artifact L)}
    (good : IfOk Good outcome) :
    (session.settle slot key fingerprint outcome).1 =
        (session'.settle slot key fingerprint outcome).1 ∧
      IfOk (fun artifact => Good artifact.content)
        (session.settle slot key fingerprint outcome).1 ∧
      Peers Good (session.settle slot key fingerprint outcome).2
        (session'.settle slot key fingerprint outcome).2 := by
  have settled : (session.settleSlot slot key fingerprint outcome).2.cache.Holds Good := by
    cases outcome with
    | ok artifact =>
        have shared : (session.cache.share artifact).2.Holds Good := peers.holds
        refine shared.write_publish fun stored ready => ?_
        cases ready
        exact good artifact rfl
    | error error =>
        simp only [settleSlot, record_cache]
        split
        · refine peers.holds.write_publish fun stored ready => ?_
          cases ready
        · split
          · refine peers.holds.of_subset (fun entry member => ?_) fun id => by rw [Cache.discard_slot]
            exact (Cache.discard_entries_sublist _ _ _).subset member
          · exact peers.holds
  have left : (session.settle slot key fingerprint outcome).2.cache.Holds Good := by
    rw [settle_cache, Cache.enforceCapacity_eq]
    exact settled.of_subset (fun _ member => (Cache.kept_sublist _).subset member) fun _ => rfl
  obtain ⟨cache, journal⟩ := session
  obtain ⟨_, journal'⟩ := session'
  obtain rfl := peers.cache
  have same : ((⟨cache, journal⟩ : Session L).settleSlot slot key fingerprint outcome).2.cache =
      ((⟨cache, journal'⟩ : Session L).settleSlot slot key fingerprint outcome).2.cache := by
    cases outcome <;> rfl
  refine ⟨?_, ?_, ?_, left⟩
  · cases outcome <;> rfl
  · intro shared published
    cases outcome with
    | ok artifact =>
        cases published
        exact good artifact rfl
    | error error => cases published
  · rw [settle_cache, settle_cache, same]

theorem getOrCompile_peers (peers : Peers Good session session') {pipeline : Pipeline L}
    {input : CompileInput} {options : PipelineOptions}
    (good : IfOk Good (compileTemplate pipeline input options).1) :
    Agree Good (IfOk fun artifact => Good artifact.content)
      (session.getOrCompile pipeline input options)
      (session'.getOrCompile pipeline input options) := by
  have acquired := acquire_peers peers input.key input.fingerprint
  unfold getOrCompile obtain
  generalize session.acquire input.key input.fingerprint = reached,
    session'.acquire input.key input.fingerprint = reached' at acquired ⊢
  cases acquired with
  | none => exact .none
  | @some given given' agree =>
      obtain ⟨acquired, held⟩ := given
      obtain ⟨_, held'⟩ := given'
      obtain ⟨rfl, fits, peers⟩ := agree
      cases acquired with
      | outdated => exact .none
      | answered result => exact .some ⟨rfl, fits, peers⟩
      | granted slot =>
          have compiled := peers.recordAll (compileTemplate pipeline input options).2
            (compileTemplate pipeline input options).2
          exact .some (settle_peers compiled slot input.key input.fingerprint good)

theorem get_peers (peers : Peers Good session session') (key : String) :
    Agree Good (fun found => ∀ artifact, found = some artifact → Good artifact.content)
      (session.get key) (session'.get key) := by
  have holds := peers.holds
  obtain ⟨cache, journal⟩ := session
  obtain ⟨_, journal'⟩ := session'
  obtain rfl := peers.cache
  simp only [get]
  split
  · exact .some ⟨rfl, fun _ absent => (nomatch absent), rfl, holds⟩
  · next slot found =>
      have touched : (cache.touch key slot).Holds Good := holds.touch found
      have listed : (key, slot) ∈ (cache.touch key slot).entries := by simp [Cache.touch]
      split
      · exact .none
      · exact .some ⟨rfl, fun _ => touched.artifact? listed, rfl, touched⟩

end Session
end Templating
