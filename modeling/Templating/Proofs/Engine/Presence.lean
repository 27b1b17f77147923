import Templating.Proofs.Cache.Looking
import Templating.Proofs.Engine.Independence

/-!
Whether a template is there, and whether it is found.

An engine can be asked whether it knows a name without compiling anything.  Both ways to ask begin with the
same look-up in the cache, which finds artifacts and passes over failures, and go on to the resolver.  So
they agree in every session in which what the resolver says that it knows is what it resolves, also while
compiles run.  They wait for one another's results only if the name itself is being compiled.
-/

namespace Templating

/-- A resolver knows the names that it resolves. -/
def Resolver.Consistent (resolver : Resolver) : Prop :=
  ∀ knows, resolver.knows = some knows → ∀ name, knows name = (resolver.resolve name).isSome

def Engine.Consistent (engine : Engine) : Prop :=
  ∀ resolver, engine.resolver = some resolver → resolver.Consistent

theorem Resolver.ofTable_consistent (table : Fields TemplateSource) : (ofTable table).Consistent := by
  intro knows same name
  cases same
  rfl

namespace Engine

/-! ## The sessions that an engine comes to -/

/-- The sessions that an engine comes to, with the compiles that run in them, the latest first.  Calls on
its cache may bring compiles of their own, which come to anything and may use the engine meanwhile. -/
inductive Meets (engine : Engine) : List Pending → Session Body → Prop where
  | start : Meets engine [] engine.start
  | serve (meets : Meets engine pending session) (serves : engine.serve session call = some after) :
      Meets engine pending after
  | compile (meets : Meets engine pending session)
      (compiles : engine.compile input session = some (result, after)) : Meets engine pending after
  | render (meets : Meets engine pending session)
      (renders : engine.render bound template model context session = some rendered) :
      Meets engine pending rendered.session
  | answer (meets : Meets engine pending session)
      (acquire : session.acquire key fingerprint = some (.answered result, after)) :
      Meets engine pending after
  | begin (meets : Meets engine pending session)
      (acquire : session.acquire key fingerprint = some (.granted slot, held)) :
      Meets engine (⟨key, fingerprint, slot⟩ :: pending) held
  | note (meets : Meets engine pending session) (event : Event) : Meets engine pending (session.record event)
  | finish {outcome : Except TemplateError (Artifact Body)}
      (meets : Meets engine (call :: pending) session)
      (settles : session.settle call.slot call.key call.fingerprint outcome = (result, after)) :
      Meets engine pending after

variable {engine : Engine} {name : String} {session looked : Session Body}

open Session (Lives)

theorem keeps_lives (engine : Engine) (capacity : Option Nat) (failurePolicy : FailurePolicy)
    (pending : List Pending) :
    engine.Keeps fun session =>
      ∃ settlements, Lives capacity failurePolicy pending settlements session where
  record := fun event ⟨settlements, lives⟩ => ⟨settlements, lives.note event⟩
  artifact := by
    intro session after input result lives compiles
    obtain ⟨settlements, lives⟩ := lives
    unfold compileArtifact at compiles
    split at compiles
    · cases compiles
      exact ⟨settlements, lives⟩
    · exact lives.getOrCompile compiles
  get := fun ⟨settlements, lives⟩ got => ⟨settlements, lives.look got⟩

theorem Meets.lives {pending : List Pending} (meets : engine.Meets pending session) :
    ∃ settlements, Lives engine.config.cacheCapacity engine.config.failurePolicy pending settlements
      session := by
  induction meets with
  | start => exact ⟨[], .create⟩
  | serve _ serves lives =>
      exact (engine.keeps_lives _ _ _).serve
        (fun _ key ⟨settlements, lives⟩ => ⟨settlements, lives.drop key⟩)
        (fun _ ⟨settlements, lives⟩ => ⟨settlements, lives.empty⟩) lives serves
  | compile _ compiles lives => exact (engine.keeps_lives _ _ _).compile lives compiles
  | @render _ _ bound _ _ _ _ _ renders lives =>
      exact Keeps.runInstance ((engine.keeps_lives _ _ _).chain bound) lives renders
  | answer _ acquire lives =>
      obtain ⟨settlements, lives⟩ := lives
      exact ⟨settlements, lives.answer acquire⟩
  | begin _ acquire lives =>
      obtain ⟨settlements, lives⟩ := lives
      exact ⟨settlements, lives.begin acquire⟩
  | note _ event lives =>
      obtain ⟨settlements, lives⟩ := lives
      exact ⟨settlements, lives.note event⟩
  | finish _ settles lives =>
      obtain ⟨settlements, lives⟩ := lives
      exact ⟨_, lives.finish settles⟩

/-! ## The two ways to ask -/

theorem resolve_eq (engine : Engine) (name : String) (session : Session Body) :
    ∃ after, engine.resolve name session =
        (engine.resolver.bind fun resolver => resolver.resolve name, after) ∧
      after.cache = session.cache ∧
      ∀ label, Journal.calls label after.journal.toList = Journal.calls label session.journal.toList := by
  unfold resolve
  cases engine.resolver with
  | none => exact ⟨session, rfl, rfl, fun _ => rfl⟩
  | some resolver =>
      exact ⟨session.record (.resolverAsked name), rfl, rfl, fun _ => by
        simp [Session.record, Journal.calls]⟩

theorem isSome_input? (engine : Engine) (name : String) :
    (engine.input? name).isSome = (engine.resolver.bind fun resolver => resolver.resolve name).isSome := by
  simp only [input?, Option.isSome_map]

/-- A name is there if the cache has an artifact for it or the resolver a text. -/
theorem hasTemplate_of_get (consistent : engine.Consistent) {found : Option (Shared (Artifact Body))}
    (got : session.get name = some (found, looked)) :
    ∃ after, engine.hasTemplate name session =
        some (found.isSome || (engine.input? name).isSome, after) ∧
      after.cache = looked.cache ∧
      ∀ label, Journal.calls label after.journal.toList = Journal.calls label looked.journal.toList := by
  cases found with
  | some artifact =>
      exact ⟨looked, by simp [hasTemplate, Session.contains, got], rfl, fun _ => rfl⟩
  | none =>
      simp only [hasTemplate, Session.contains, got, Option.map_some, Option.isSome_none, Bool.false_or]
      cases answers : engine.resolver.bind Resolver.knows with
      | none =>
          obtain ⟨after, asked, cache, calls⟩ := engine.resolve_eq name looked
          exact ⟨after, by simp only [asked, isSome_input?], cache, calls⟩
      | some knows =>
          obtain ⟨resolver, here, known⟩ := Option.bind_eq_some_iff.mp answers
          refine ⟨looked, ?_, rfl, fun _ => rfl⟩
          simp [consistent resolver here knows known name, isSome_input?, here]

/-- A template that is cached is found as it is. -/
theorem findTemplate_of_found (engine : Engine) {artifact : Shared (Artifact Body)}
    (got : session.get name = some (some artifact, looked)) :
    ∃ template, engine.findTemplate name session =
        some (.ok (some template), looked.record (.templateSought name)) ∧
      template.artifact = artifact := by
  obtain ⟨template, made, same, _⟩ := engine.exists_newInstance artifact
  refine ⟨template, ?_, same⟩
  simp only [findTemplate, Session.get_record, got, Option.map_some, made, Except.map]

/-- A name that neither the cache nor the resolver knows is not found. -/
theorem findTemplate_of_unknown (got : session.get name = some (none, looked))
    (unknown : engine.input? name = none) :
    ∃ after, engine.findTemplate name session = some (.ok none, after) := by
  obtain ⟨after, asked, _⟩ := engine.resolve_eq name (looked.record (.templateSought name))
  have nothing : (engine.resolver.bind fun resolver => resolver.resolve name) = none := by
    simpa [input?] using unknown
  rw [nothing] at asked
  exact ⟨after, by simp only [findTemplate, Session.get_record, got, Option.map_some, asked]⟩

/-- A name that only the resolver knows comes to whatever its compile comes to. -/
theorem findTemplate_of_known (got : session.get name = some (none, looked)) {input : CompileInput}
    (known : engine.input? name = some input) :
    ∃ resolved, resolved.cache = looked.cache ∧
      engine.findTemplate name session =
        (engine.compile input resolved).map fun compiled => (compiled.1.map some, compiled.2) := by
  obtain ⟨source, resolves, rfl⟩ := Option.map_eq_some_iff.mp known
  obtain ⟨after, asked, cache, _⟩ := engine.resolve_eq name (looked.record (.templateSought name))
  rw [resolves] at asked
  refine ⟨after.record (.templateResolved name), cache, ?_⟩
  simp only [findTemplate, Session.get_record, got, Option.map_some, asked]
  split <;> next compiles => simp [compiles]

theorem exists_compile_of_free (engine : Engine) {input : CompileInput}
    (free : session.cache.Free input.key) :
    ∃ result after, engine.compile input session = some (result, after) := by
  have made : ∃ result after, engine.compileArtifact input session = some (result, after) := by
    unfold compileArtifact
    split
    · exact ⟨_, _, rfl⟩
    · next pipeline _ =>
        obtain ⟨result, report, after, obtained⟩ := Session.exists_obtain_of_free free input.fingerprint
          (fun session => some ((compileTemplate pipeline input engine.options).1, (),
            session.recordAll (compileTemplate pipeline input engine.options).2))
          fun held => ⟨_, (), _, rfl⟩
        exact ⟨result, after, congrArg
          (Option.map fun answered : (_ × Option Unit) × _ => (answered.1.1, answered.2)) obtained⟩
  obtain ⟨result, after, made⟩ := made
  unfold compile
  rw [made]
  cases result <;> exact ⟨_, _, rfl⟩

/-- A name is said not to be there exactly where a look-up finds nothing, and asking changes nothing but how
recently the name was used. -/
structure Concurs (engine : Engine) (name : String) (session : Session Body) : Prop where
  absent : (∃ after, engine.hasTemplate name session = some (false, after)) ↔
    ∃ after, engine.findTemplate name session = some (.ok none, after)
  /-- Where one has to wait for a compile of the name, so has the other. -/
  waits : engine.hasTemplate name session = none → engine.findTemplate name session = none
  leaves : ∀ present after, engine.hasTemplate name session = some (present, after) →
    Cache.Retouched name session.cache after.cache ∧
      ∀ label, Journal.calls label after.journal.toList = Journal.calls label session.journal.toList

/-- Both ways to ask for a name come to a result, and what is cached is found at once. -/
structure Answers (engine : Engine) (name : String) (session : Session Body) : Prop where
  has : ∃ present after, engine.hasTemplate name session = some (present, after) ∧
    (present = true ↔ (∃ artifact, session.cache.Lists name artifact) ∨ (engine.input? name).isSome)
  finds : ∃ result after, engine.findTemplate name session = some (result, after)
  cached : ∀ artifact, session.cache.Lists name artifact →
    ∃ template after, engine.findTemplate name session = some (.ok (some template), after) ∧
      template.artifact = artifact ∧
      Journal.asked after.journal.toList = Journal.asked session.journal.toList ∧
      ∀ label, Journal.calls label after.journal.toList = Journal.calls label session.journal.toList

theorem Consistent.concurs (consistent : engine.Consistent) (listed : session.cache.Listed)
    (name : String) : engine.Concurs name session := by
  cases got : session.get name with
  | none =>
      have waits : engine.hasTemplate name session = none := by simp [hasTemplate, Session.contains, got]
      have waits' : engine.findTemplate name session = none := by
        simp [findTemplate, Session.get_record, got]
      exact ⟨by simp [waits, waits'], fun _ => waits', by simp [waits]⟩
  | some given =>
      obtain ⟨found, looked⟩ := given
      obtain ⟨asked, has, cache, calls⟩ := hasTemplate_of_get consistent got
      obtain ⟨_, journal, retouched, _⟩ := Session.get_leaves listed got
      refine ⟨?_, fun waits => ?_, fun present after asks => ?_⟩
      · cases found with
        | some artifact =>
            obtain ⟨template, finds, _⟩ := engine.findTemplate_of_found got
            simp [has, finds]
        | none =>
            cases known : engine.input? name with
            | none =>
                obtain ⟨after, finds⟩ := findTemplate_of_unknown got known
                simp [has, finds, known]
            | some input =>
                obtain ⟨resolved, _, finds⟩ := findTemplate_of_known got known
                have some : ∀ result : Except TemplateError Instance, result.map some ≠ .ok none := by
                  intro result
                  cases result <;> simp [Except.map]
                simp [has, finds, known, some]
      · cases has.symm.trans waits
      · cases has.symm.trans asks
        refine ⟨cache ▸ retouched, fun label => ?_⟩
        rw [calls, journal]

theorem Consistent.answers (consistent : engine.Consistent) (listed : session.cache.Listed)
    (free : session.cache.Free name) : engine.Answers name session := by
  obtain ⟨looked, got⟩ := Session.exists_get_of_free free
  obtain ⟨_, journal, _, still⟩ := Session.get_leaves listed got
  obtain ⟨after, has, _⟩ := hasTemplate_of_get consistent got
  refine ⟨⟨_, after, has, ?_⟩, ?_, fun artifact lists => ?_⟩
  · simp [listed.lists_iff, Option.isSome_iff_exists]
  · cases cached : session.cache.cached? name with
    | some artifact =>
        rw [cached] at got
        obtain ⟨template, finds, _⟩ := engine.findTemplate_of_found got
        exact ⟨_, _, finds⟩
    | none =>
        rw [cached] at got
        cases known : engine.input? name with
        | none =>
            obtain ⟨after, finds⟩ := findTemplate_of_unknown got known
            exact ⟨_, _, finds⟩
        | some input =>
            obtain ⟨resolved, same, finds⟩ := findTemplate_of_known got known
            have named : input.key = name := by simp [CompileInput.key, name_of_input? known]
            have free : resolved.cache.Free input.key := by
              rw [same, named]
              exact still free
            obtain ⟨result, after, compiles⟩ := engine.exists_compile_of_free free
            exact ⟨_, _, by rw [finds, compiles]; rfl⟩
  · rw [listed.lists_iff.mp lists] at got
    obtain ⟨template, finds, same⟩ := engine.findTemplate_of_found got
    refine ⟨template, _, finds, same, ?_, fun label => ?_⟩
    · simp [Session.record, Journal.asked, journal]
    · simp [Session.record, Journal.calls, journal]

end Engine

/-- Whether a name is there agrees with what a look-up finds, in every session that an engine comes to by
itself, and for every cache that callers share.  Both come to a result unless the name is in use by a call
that has its slot. -/
theorem hasTemplate_agrees_with_findTemplate (engine : Engine) (consistent : engine.Consistent)
    (name : String) :
    (∀ pending session, engine.Meets pending session →
      engine.Concurs name session ∧
        ((∀ call ∈ pending, call.key ≠ name) → engine.Answers name session)) ∧
    ∀ calls machine journal,
      Machine.Reachable (.start (.ofConfig engine.config) calls) machine →
        engine.Concurs name ⟨machine.cache, journal⟩ ∧
          ((∀ caller ∈ machine.callers, caller.phase.holds?.isSome → caller.call.key? ≠ some name) →
            engine.Answers name ⟨machine.cache, journal⟩) := by
  constructor
  · intro pending session meets
    obtain ⟨_, lives⟩ := meets.lives
    have kept := lives.kept
    exact ⟨consistent.concurs kept.orderly.listed name, fun elsewhere =>
      consistent.answers kept.orderly.listed (kept.free elsewhere)⟩
  · intro calls machine journal reachable
    have exclusive := reachable.exclusive rfl
    obtain ⟨_, explained⟩ := reachable.explained
    exact ⟨consistent.concurs explained.owned.listed name, fun elsewhere =>
      consistent.answers explained.owned.listed (explained.owned.free exclusive elsewhere)⟩

namespace Engine

theorem cramped_consistent : cramped.Consistent := by
  intro resolver same
  cases same
  exact Resolver.ofTable_consistent _

/-- A failure that is remembered for a name that nobody knows. -/
def absentCall (slot : SlotId) : Pending :=
  ⟨"absent", ⟨Sha256.initial⟩, slot⟩

def absentCalls : List (Call Body) :=
  [.obtain "absent" ⟨Sha256.initial⟩ (.error (.generation []))]

/-- While a compile of another name runs a template is found that is cached, and the name is not there
when its failure is remembered. -/
theorem cramped_agrees_on_presence :
    cramped.Consistent ∧
    (∃ slot session, cramped.Meets [absentCall slot] session ∧
      (∃ artifact, session.cache.Lists "frame" artifact) ∧ cramped.Answers "frame" session) ∧
    (∃ slot session, cramped.Meets [] session ∧ session.cache.find? "absent" = some slot ∧
      (session.cache.slot slot).status = .failed ∧
      (∃ after, cramped.hasTemplate "absent" session = some (false, after)) ∧
      ∃ after, cramped.findTemplate "absent" session = some (.ok none, after)) ∧
    ∃ machine, Machine.Reachable (.start (.ofConfig cramped.config) absentCalls) machine ∧
      machine.cache.held = [0] ∧ cramped.Answers "page" ⟨machine.cache, #[]⟩ := by
  refine ⟨cramped_consistent, ?_⟩
  rw [← and_assoc]
  constructor
  · obtain ⟨onFrame, _⟩ := hasTemplate_agrees_with_findTemplate cramped cramped_consistent "frame"
    obtain ⟨onAbsent, _⟩ := hasTemplate_agrees_with_findTemplate cramped cramped_consistent "absent"
    have evaluated : ((cramped.serve cramped.start (.render (.run "page" .none .empty) 2)).any fun served =>
        (served.acquire "absent" ⟨Sha256.initial⟩).any fun
          | (.granted slot, held) =>
              let after := (held.settle slot "absent" ⟨Sha256.initial⟩ (.error (.generation []))).2
              (held.cache.cached? "frame").isSome &&
                decide (after.cache.find? "absent" = some slot ∧
                  (after.cache.slot slot).status = .failed) &&
                (cramped.hasTemplate "absent" after).any fun asked => !asked.1
          | _ => false) = true := by decide +kernel
    obtain ⟨served, serves, evaluated⟩ := (Option.any_eq_true _ _).mp evaluated
    obtain ⟨⟨acquired, held⟩, acquires, evaluated⟩ := (Option.any_eq_true _ _).mp evaluated
    cases acquired with
    | outdated => exact absurd evaluated Bool.false_ne_true
    | answered result => exact absurd evaluated Bool.false_ne_true
    | granted slot =>
        simp only [Bool.and_eq_true] at evaluated
        obtain ⟨⟨cached, failed⟩, asked⟩ := evaluated
        obtain ⟨found, status⟩ := of_decide_eq_true failed
        obtain ⟨⟨present, final⟩, asks, absent⟩ := (Option.any_eq_true _ _).mp asked
        obtain rfl : present = false := by simpa using absent
        have begun : cramped.Meets [absentCall slot] held := (Meets.start.serve serves).begin acquires
        have ended : cramped.Meets []
            (held.settle slot "absent" ⟨Sha256.initial⟩ (.error (.generation []))).2 :=
          begun.finish (show held.settle slot "absent" ⟨Sha256.initial⟩ (.error (.generation [])) =
            (_, _) from rfl)
        obtain ⟨_, lives⟩ := begun.lives
        obtain ⟨artifact, stored⟩ := Option.isSome_iff_exists.mp cached
        have lists := lives.kept.orderly.listed.lists_iff.mpr stored
        exact ⟨⟨slot, held, begun, ⟨artifact, lists⟩,
            (onFrame _ _ begun).2 (by simp [absentCall])⟩,
          slot, _, ended, found, status, ⟨final, asks⟩, (onAbsent _ _ ended).1.absent.mp ⟨final, asks⟩⟩
  · obtain ⟨_, onPage⟩ := hasTemplate_agrees_with_findTemplate cramped cramped_consistent "page"
    have begun : Machine.Reachable (.start (.ofConfig cramped.config) absentCalls)
      (.start (.ofConfig cramped.config) absentCalls) := .refl
    have reachable := begun.runSchedule (List.replicate 7 0)
    have others : (Machine.runSchedule (.start (.ofConfig cramped.config) absentCalls)
        (List.replicate 7 0)).callers.all (fun caller => caller.call.key? ≠ some "page") = true := by
      decide +kernel
    refine ⟨_, reachable, by decide +kernel, (onPage _ _ #[] reachable).2 fun caller member _ => ?_⟩
    exact of_decide_eq_true (List.all_eq_true.mp others caller member)

end Engine
end Templating
