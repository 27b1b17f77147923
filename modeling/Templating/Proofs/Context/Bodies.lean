import Mathlib.Data.List.Forall2
import Templating.Proofs.Context.Acts

/-!
The order in which bodies are handed out.

A body is known by the position of the act that pushed it.  `waiting` holds the positions of the bodies
that have not been handed out, the latest first; it runs beside the bodies of the context and never
looks at them, so that it tells two bodies of the same text apart.
-/

namespace Templating.Context

namespace Act

def onWaiting (position : Nat) : Act → List Nat → List Nat
  | .push _, waiting => position :: waiting
  | .pop (.ok _), waiting => waiting.tail
  | .reset, _ => []
  | _, waiting => waiting

/-- Where the bodies were pushed that wait at a position, the latest first. -/
def waiting (acts : List Act) : Nat → List Nat
  | 0 => []
  | position + 1 =>
      match acts[position]? with
      | none => waiting acts position
      | some act => act.onWaiting position (waiting acts position)

/-- Where the body was pushed that is handed out at a position. -/
def origin (acts : List Act) (position : Nat) : Nat :=
  (waiting acts position).headD 0

/-- The body that was pushed at `pushed` is handed out before `position`. -/
def HandedOut (acts : List Act) (origin : Nat → Nat) (pushed position : Nat) : Prop :=
  ∃ earlier body, earlier < position ∧ acts[earlier]? = some (.pop (.ok body)) ∧
    origin earlier = pushed

/-- Bodies are handed out at most once, of those that wait the latest first, and are refused only if
none waits. -/
structure LastInFirstOut (acts : List Act) (origin : Nat → Nat) : Prop where
  pushed {position : Nat} {body : Producer} : acts[position]? = some (.pop (.ok body)) →
    origin position < position ∧ acts[origin position]? = some (.push body)
  once {position : Nat} {body : Producer} : acts[position]? = some (.pop (.ok body)) →
    ¬ HandedOut acts origin (origin position) position
  latest {position later : Nat} {body other : Producer} :
    acts[position]? = some (.pop (.ok body)) → origin position < later → later < position →
    acts[later]? = some (.push other) → HandedOut acts origin later position
  refused {position : Nat} {result : Except TemplateError Producer} :
    acts[position]? = some (.pop result) →
    (result = .error (.usage .emptyBodyStack) ↔
      ∀ earlier body, earlier < position → acts[earlier]? = some (.push body) →
        HandedOut acts origin earlier position)

variable {acts : List Act} {act : Act} {position pushed : Nat} {body : Producer}

theorem mem_onWaiting {waiting : List Nat} (member : pushed ∈ act.onWaiting position waiting) :
    pushed = position ∨ pushed ∈ waiting := by
  unfold onWaiting at member
  split at member
  · exact List.mem_cons.mp member
  · exact .inr (List.mem_of_mem_tail member)
  · contradiction
  · exact .inr member

theorem lt_of_mem_waiting (member : pushed ∈ waiting acts position) : pushed < position := by
  induction position with
  | zero => contradiction
  | succ position ih =>
      unfold waiting at member
      split at member
      · exact Nat.lt_succ_of_lt (ih member)
      · rcases mem_onWaiting member with rfl | earlier
        · exact Nat.lt_succ_self _
        · exact Nat.lt_succ_of_lt (ih earlier)

theorem waiting_descending (acts : List Act) (position : Nat) :
    (waiting acts position).Pairwise (· > ·) := by
  induction position with
  | zero => exact .nil
  | succ position ih =>
      unfold waiting
      split
      · exact ih
      · unfold onWaiting
        split
        · exact List.pairwise_cons.mpr ⟨fun _ => lt_of_mem_waiting, ih⟩
        · exact ih.tail
        · exact .nil
        · exact ih

theorem origin_le (acts : List Act) (position : Nat) : origin acts position ≤ position := by
  unfold origin
  cases waits : waiting acts position with
  | nil => exact Nat.zero_le _
  | cons first rest => exact Nat.le_of_lt (lt_of_mem_waiting (waits ▸ List.mem_cons_self))

theorem HandedOut.succ {origin : Nat → Nat} (handedOut : HandedOut acts origin pushed position) :
    HandedOut acts origin pushed (position + 1) := by
  obtain ⟨earlier, body, before, pops, same⟩ := handedOut
  exact ⟨earlier, body, Nat.lt_succ_of_lt before, pops, same⟩

theorem waiting_succ_or_handedOut (keeps : Act.reset ∉ acts) (waits : pushed ∈ waiting acts position) :
    pushed ∈ waiting acts (position + 1) ∨ HandedOut acts (origin acts) pushed (position + 1) := by
  unfold waiting
  split
  · exact .inl waits
  · next act here =>
      unfold onWaiting
      split
      · exact .inl (List.mem_cons_of_mem _ waits)
      · next popped =>
          cases all : waiting acts position with
          | nil => simp [all] at waits
          | cons first rest =>
              rw [all] at waits
              rcases List.mem_cons.mp waits with rfl | inRest
              · have from_ : origin acts position = pushed := by simp [origin, all]
                exact .inr ⟨position, popped, Nat.lt_succ_self _, here, from_⟩
              · exact .inl inRest
      · exact absurd (List.mem_of_getElem? here) keeps
      · exact .inl waits

/-- A body that was pushed waits or has been handed out, as long as none are dropped. -/
theorem waiting_or_handedOut (keeps : Act.reset ∉ acts) (pushes : acts[pushed]? = some (.push body))
    (before : pushed < position) :
    pushed ∈ waiting acts position ∨ HandedOut acts (origin acts) pushed position := by
  induction position with
  | zero => contradiction
  | succ position ih =>
      by_cases last : pushed = position
      · subst last
        rw [waiting, pushes]
        exact .inl List.mem_cons_self
      · rcases ih (by omega) with waits | handedOut
        · exact waiting_succ_or_handedOut keeps waits
        · exact .inr handedOut.succ

theorem not_waiting_of_handedOut (handedOut : HandedOut acts (origin acts) pushed position) :
    pushed ∉ waiting acts position := by
  induction position with
  | zero =>
      obtain ⟨_, _, before, _⟩ := handedOut
      contradiction
  | succ position ih =>
      obtain ⟨earlier, body, before, pops, same⟩ := handedOut
      by_cases last : earlier = position
      · subst last
        rw [waiting, pops]
        -- What is handed out is the first of those that wait, and none waits twice.
        have descending := waiting_descending acts earlier
        unfold origin at same
        cases all : waiting acts earlier with
        | nil => simp [onWaiting]
        | cons first rest =>
            rw [all] at same descending
            obtain rfl : first = pushed := same
            intro inRest
            exact Nat.lt_irrefl _ ((List.pairwise_cons.mp descending).1 _ inRest)
      · have earlierStill : earlier < position := by omega
        have gone := ih ⟨earlier, body, earlierStill, pops, same⟩
        have le := origin_le acts earlier
        unfold waiting
        split
        · exact gone
        · intro member
          rcases mem_onWaiting member with rfl | waits
          · omega
          · exact gone waits

end Act

open Act

variable {before after : Context} {acts : List Act}

theorem forall₂_tail {Relates : α → β → Prop} {first : List α} {second : List β}
    (related : List.Forall₂ Relates first second) :
    List.Forall₂ Relates first.tail second.tail := by
  cases related with
  | nil => exact .nil
  | cons _ rest => exact rest

/-- The bodies of a context are those that wait. -/
theorem Steps.forall₂_waiting {position : Nat} (steps : Steps before (acts.take position) after)
    (empty : before.bodies = []) :
    List.Forall₂ (fun pushed body => acts[pushed]? = some (.push body)) (waiting acts position)
      after.bodies := by
  induction position generalizing after with
  | zero =>
      obtain rfl := steps_nil_iff.mp steps
      rw [empty]
      exact .nil
  | succ position ih =>
      rw [List.take_add_one] at steps
      obtain ⟨middle, first, last⟩ := steps_append_iff.mp steps
      have waits := ih first
      unfold waiting
      cases here : acts[position]? with
      | none =>
          rw [here] at last
          obtain rfl := steps_nil_iff.mp last
          exact waits
      | some act =>
          rw [here] at last
          obtain ⟨_, step, rest⟩ := steps_cons_iff.mp last
          obtain rfl := steps_nil_iff.mp rest
          rw [step.bodies]
          cases act with
          | push => exact .cons here waits
          | pop result =>
              cases result with
              | ok => exact forall₂_tail waits
              | error => exact waits
          | reset => exact .nil
          | _ => exact waits

/-- A request for a body is answered with the first of the bodies that wait. -/
theorem Steps.pop_result {position : Nat} {result : Except TemplateError Producer}
    (steps : Steps before acts after) (empty : before.bodies = [])
    (pops : acts[position]? = some (.pop result)) :
    waiting acts position = [] ∧ result = .error (.usage .emptyBodyStack) ∨
      ∃ rest body, waiting acts position = origin acts position :: rest ∧
        acts[origin acts position]? = some (.push body) ∧ result = .ok body := by
  obtain ⟨within, same⟩ := List.getElem?_eq_some_iff.mp pops
  have split : acts = acts.take position ++ .pop result :: acts.drop (position + 1) := by
    rw [← same, ← List.drop_eq_getElem_cons within, List.take_append_drop]
  rw [split] at steps
  obtain ⟨middle, first, last⟩ := steps_append_iff.mp steps
  obtain ⟨_, step, _⟩ := steps_cons_iff.mp last
  have waits := first.forall₂_waiting empty
  have answer := step.pop_result
  unfold origin
  cases bodies : middle.bodies with
  | nil =>
      rw [bodies] at waits answer
      exact .inl ⟨List.forall₂_nil_right_iff.mp waits, answer⟩
  | cons body others =>
      rw [bodies] at waits answer
      obtain ⟨pushed, rest, pushes, _, all⟩ := List.forall₂_cons_right_iff.mp waits
      rw [all]
      exact .inr ⟨rest, body, rfl, pushes, answer⟩

theorem Steps.lastInFirstOut (steps : Steps before acts after) (empty : before.bodies = [])
    (keeps : Act.reset ∉ acts) : LastInFirstOut acts (origin acts) where
  pushed {position body} pops := by
    obtain ⟨_, failed⟩ | ⟨rest, first, all, pushes, same⟩ := steps.pop_result empty pops
    · contradiction
    · cases same
      exact ⟨lt_of_mem_waiting (all ▸ List.mem_cons_self), pushes⟩
  once {position body} pops handedOut := by
    obtain ⟨_, failed⟩ | ⟨rest, first, all, _, _⟩ := steps.pop_result empty pops
    · contradiction
    · exact not_waiting_of_handedOut handedOut (all ▸ List.mem_cons_self)
  latest {position later body other} pops above before pushes := by
    obtain ⟨_, failed⟩ | ⟨rest, first, all, _, _⟩ := steps.pop_result empty pops
    · contradiction
    · rcases waiting_or_handedOut keeps pushes before with waits | handedOut
      · have descending := waiting_descending acts position
        rw [all] at waits descending
        rcases List.mem_cons.mp waits with rfl | inRest
        · omega
        · have below := (List.pairwise_cons.mp descending).1 _ inRest
          omega
      · exact handedOut
  refused {position result} pops := by
    obtain ⟨none, failed⟩ | ⟨rest, first, all, pushes, same⟩ := steps.pop_result empty pops
    · refine iff_of_true failed fun earlier body before pushes => ?_
      rcases waiting_or_handedOut keeps pushes before with waits | handedOut
      · simp [none] at waits
      · exact handedOut
    · have waits : origin acts position ∈ waiting acts position := all ▸ List.mem_cons_self
      refine iff_of_false (by simp [same]) fun allOut => ?_
      exact not_waiting_of_handedOut (allOut _ _ (lt_of_mem_waiting waits) pushes) waits

theorem steps_push (context : Context) (bodies : List Producer) :
    Steps { context with bodies := [] } (bodies.reverse.map .push) { context with bodies } := by
  induction bodies with
  | nil => exact .nil
  | cons body rest ih =>
      rw [List.reverse_cons, List.map_append]
      exact ih.append (.single .push)

/-- Whatever a context goes through, the bodies that it starts with and those that are pushed are handed
out last in, first out. -/
theorem Steps.lastInFirstOut_of_bodies (steps : Steps before acts after) (keeps : Act.reset ∉ acts) :
    ∃ origin, LastInFirstOut (before.bodies.reverse.map .push ++ acts) origin := by
  have whole := (steps_push before before.bodies).append steps
  refine ⟨_, whole.lastInFirstOut rfl ?_⟩
  rw [List.mem_append, not_or]
  exact ⟨by simp, keeps⟩

namespace Act

def isPush : Act → Bool
  | .push _ => true
  | _ => false

/-- A request for a body that is answered with one. -/
def isHandout : Act → Bool
  | .pop (.ok _) => true
  | _ => false

end Act

/-- The first body that is handed out is the one on top. -/
theorem Steps.first_popped {body : Producer} {rest : List Producer}
    {result : Except TemplateError Producer} (steps : Steps before acts after)
    (bodies : before.bodies = body :: rest)
    (settled : ∀ act ∈ acts, act.isPush = false ∧ act ≠ .reset)
    (first : (acts.filterMap popped?).head? = some result) : result = .ok body := by
  induction steps with
  | nil => contradiction
  | @cons before act middle acts after step _ ih =>
      obtain ⟨⟨notPush, notReset⟩, others⟩ := List.forall_mem_cons.mp settled
      have kept (same : act.onBodies before.bodies = before.bodies)
          (later : (acts.filterMap popped?).head? = some result) : result = .ok body :=
        ih (step.bodies.trans (same.trans bodies)) others later
      cases act with
      | pop given =>
          have answer := step.pop_result
          rw [bodies] at answer
          exact (Option.some.inj first).symm.trans answer
      | push => contradiction
      | reset => contradiction
      | _ => exact kept rfl first

/-! ## How many bodies wait -/

theorem Step.pendingBodies_add {act : Act} (step : Step before act after) (keeps : act ≠ .reset) :
    after.pendingBodies + (if act.isHandout then 1 else 0) =
      before.pendingBodies + (if act.isPush then 1 else 0) := by
  have bodies := congrArg List.length step.bodies
  unfold pendingBodies
  cases step with
  | pop pops =>
      have one := congrArg List.length (popBody_eq_ok_iff.mp pops).1
      rw [List.length_cons] at one
      rw [bodies]
      exact one.symm
  | reset => contradiction
  | _ => exact bodies

theorem Steps.pendingBodies_add (steps : Steps before acts after) (keeps : Act.reset ∉ acts) :
    after.pendingBodies + acts.countP isHandout = before.pendingBodies + acts.countP isPush := by
  induction steps with
  | nil => rfl
  | cons step _ ih =>
      rw [List.mem_cons, not_or] at keeps
      have first := step.pendingBodies_add (Ne.symm keeps.1)
      have rest := ih keeps.2
      rw [List.countP_cons, List.countP_cons]
      omega

end Templating.Context
