import Templating.Proofs.Cache.Provenance

/-!
Runs with their past.

A run lists its moments: who took a step, and the machine that the step was taken from.  What
happens in a run, such as the start and the end of a compile, is read off its moments.
-/

namespace Templating

variable {L : Type u}

/-- A step of a run. -/
structure Moment (L : Type u) where
  mover : Nat
  machine : Machine L

namespace Machine

/-- Machines that a run comes to, with the moments before. -/
inductive Run (initial : Machine L) : List (Moment L) → Machine L → Prop where
  | start : Run initial [] initial
  | step {past : List (Moment L)} {before after : Machine L} {index : Nat} :
      Run initial past before → before.step? index = some after →
      Run initial (past ++ [⟨index, before⟩]) after

theorem Run.reachable {initial machine : Machine L} {past : List (Moment L)}
    (run : Run initial past machine) : Reachable initial machine := by
  induction run with
  | start => exact .refl
  | step _ stepped ih => exact .step ih ⟨_, stepped⟩

/-- What holds at the end of a run and not at its start has begun at some moment, and held since. -/
theorem Run.since {initial machine : Machine L} {past : List (Moment L)}
    (run : Run initial past machine) (Holds : Machine L → Prop)
    (Begins : Moment L → Prop) (fresh : ¬ Holds initial)
    (begins : ∀ {before after : Machine L} {mover : Nat}, Reachable initial before →
      before.step? mover = some after → Holds after → Holds before ∨ Begins ⟨mover, before⟩)
    (holds : Holds machine) :
    ∃ front first rest, past = front ++ first :: rest ∧ Begins first ∧
      ∀ moment ∈ rest, Holds moment.machine := by
  induction run with
  | start => exact absurd holds fresh
  | @step past before after mover run stepped ih =>
      rcases begins run.reachable stepped holds with held | begun
      · obtain ⟨front, first, rest, rfl, begun, since⟩ := ih held
        refine ⟨front, first, rest ++ [⟨mover, before⟩], by simp, begun, ?_⟩
        intro moment member
        rcases List.mem_append.mp member with earlier | last
        · exact since moment earlier
        · exact List.mem_singleton.mp last ▸ held
      · exact ⟨past, ⟨mover, before⟩, [], rfl, begun, by simp⟩

/-- The outcome of the compile that runs for a caller, if its call is on the key. -/
def compiling? (machine : Machine L) (key : String) (index : Nat) :
    Option (Except TemplateError (Artifact L)) :=
  match machine.callers[index]? with
  | some ⟨.obtain other _ outcome, .compiling _⟩ => if other = key then some outcome else none
  | _ => none

end Machine

namespace Moment

/-- A compile for the key starts. -/
def begins (key : String) (moment : Moment L) : Bool :=
  (moment.machine.compiling? key moment.mover).isNone &&
    (moment.machine.step? moment.mover).any fun after =>
      (after.compiling? key moment.mover).isSome

/-- The outcome of the compile for the key that comes to its end. -/
def outcome? (key : String) (moment : Moment L) : Option (Except TemplateError (Artifact L)) :=
  moment.machine.compiling? key moment.mover

/-- A compile for the key comes to an artifact. -/
def succeeds (key : String) (moment : Moment L) : Bool :=
  (moment.outcome? key).any Except.isOk

end Moment

variable {machine : Machine L} {key : String} {index : Nat}
  {result : Except TemplateError (Artifact L)}

theorem Machine.compiling?_eq_some_iff :
    machine.compiling? key index = some result ↔
      ∃ fingerprint slot,
        machine.callers[index]? = some ⟨.obtain key fingerprint result, .compiling slot⟩ := by
  unfold compiling?
  constructor
  · intro compiles
    split at compiles
    · next other fingerprint outcome slot found =>
        split at compiles
        · next same =>
            cases compiles
            exact ⟨fingerprint, slot, same ▸ found⟩
        · contradiction
    · contradiction
  · intro given
    obtain ⟨fingerprint, slot, found⟩ := given
    simp [found]

/-- A caller that reads its slot starts to compile exactly if it finds no answer. -/
theorem Move.compiling_iff {cache cache' : Cache L} {call : Call L} {lock lock' : Option Nat}
    {phase phase' : Phase L} (move : Move index cache call lock phase lock' phase' cache') :
    (∃ slot, phase' = .compiling slot) ↔
      ∃ key fingerprint outcome slot, call = .obtain key fingerprint outcome ∧
        phase = .reading slot ∧ cache.answer? slot fingerprint = none := by
  constructor
  · intro given
    obtain ⟨slot, rfl⟩ := given
    cases move with
    | begin unanswered => exact ⟨_, _, _, _, rfl, rfl, unanswered⟩
  · intro given
    obtain ⟨key, fingerprint, outcome, slot, rfl, rfl, unanswered⟩ := given
    cases move with
    | begin => exact ⟨_, rfl⟩
    | read reads => simp [Machine.read, unanswered] at reads

theorem Moment.begins_iff {after : Machine L} (stepped : machine.step? index = some after) :
    Moment.begins key ⟨index, machine⟩ = true ↔
      ∃ fingerprint outcome slot,
        machine.callers[index]? = some ⟨.obtain key fingerprint outcome, .reading slot⟩ ∧
        machine.cache.answer? slot fingerprint = none := by
  obtain ⟨call, phase, lock', phase', cache', found, move, rfl⟩ :=
    Machine.step?_eq_some_iff.mp stepped
  have within := (List.getElem?_eq_some_iff.mp found).1
  simp only [begins, stepped, Option.any_some, Bool.and_eq_true, Option.isNone_iff_eq_none,
    Option.isSome_iff_exists]
  constructor
  · intro given
    obtain ⟨_, result, compiles⟩ := given
    obtain ⟨fingerprint, slot, moved⟩ := Machine.compiling?_eq_some_iff.mp compiles
    simp only [List.getElem?_set_self within, Option.some.injEq, Caller.mk.injEq] at moved
    obtain ⟨rfl, rfl⟩ := moved
    obtain ⟨_, _, _, slot, same, rfl, unanswered⟩ := move.compiling_iff.mp ⟨_, rfl⟩
    cases same
    exact ⟨_, _, _, found, unanswered⟩
  · intro given
    obtain ⟨fingerprint, outcome, slot, found', unanswered⟩ := given
    cases found.symm.trans found'
    obtain ⟨slot', rfl⟩ := move.compiling_iff.mpr ⟨_, _, _, _, rfl, rfl, unanswered⟩
    refine ⟨by simp [Machine.compiling?, found], outcome, ?_⟩
    exact Machine.compiling?_eq_some_iff.mpr ⟨fingerprint, slot', by simp [within]⟩

end Templating
