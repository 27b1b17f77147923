import Templating.Proofs.Engine.Link

/-!
A render that a bound suffices for comes to the same with every larger bound.
-/

namespace Templating

/-- What the one includer renders the other renders as well. -/
def Includer.Within (less more : Includer) : Prop :=
  ∀ name model bag session given,
    less name model bag session = some given → more name model bag session = some given

def Chain.Within (less more : Chain) : Prop :=
  ∀ template context session rendered,
    less template context session = some rendered → more template context session = some rendered

/-- What is rendered with some bound is rendered with every larger one. -/
def Includer.Ascends (includers : Nat → Includer) : Prop :=
  ∀ {less more : Nat}, less ≤ more → (includers less).Within (includers more)

theorem Includer.ascends_const (includer : Includer) : Includer.Ascends fun _ => includer :=
  fun _ _ _ _ _ _ same => same

theorem Includer.Ascends.unique {includers : Nat → Includer} (ascends : Includer.Ascends includers)
    {bound bound' : Nat} {name : String} {model : Model} {bag : ViewBag} {session : Session Body}
    {given given' : Except TemplateError String × Session Body}
    (renders : includers bound name model bag session = some given)
    (renders' : includers bound' name model bag session = some given') : given = given' := by
  have larger := ascends (Nat.le_max_left bound bound') _ _ _ _ _ renders
  have larger' := ascends (Nat.le_max_right bound bound') _ _ _ _ _ renders'
  exact Option.some.inj (larger.symm.trans larger')

theorem Body.run_within {engine : Engine} {template : Instance} {less more : Includer}
    (within : less.Within more) (body : Body) {page : Page}
    {given : Except TemplateError Unit × Page}
    (runs : body.run engine template less page = some given) :
    body.run engine template more page = some given := by
  induction body generalizing page given with
  | done => exact runs
  | call callback next ih =>
      simp only [Body.run] at runs ⊢
      split at runs
      · contradiction
      · exact ih _ runs
  | captureSection name inner next ihInner ih =>
      simp only [Body.run] at runs ⊢
      split at runs
      · next defined =>
          rw [if_pos defined]
          exact ih _ runs
      · next undefined =>
          rw [if_neg undefined]
          split at runs
          · contradiction
          · next error inside ran =>
              rw [ihInner ran]
              exact ih _ runs
          · next inside ran =>
              rw [ihInner ran]
              exact ih _ runs
  | includeTemplate name model next ih =>
      simp only [Body.run] at runs ⊢
      split at runs
      · contradiction
      · next included session ran =>
          rw [within _ _ _ _ _ ran]
          exact ih _ runs

theorem Body.run_unique {engine : Engine} {template : Instance} {includers : Nat → Includer}
    (ascends : Includer.Ascends includers) {bound bound' : Nat} {body : Body} {page : Page}
    {given given' : Except TemplateError Unit × Page}
    (runs : body.run engine template (includers bound) page = some given)
    (runs' : body.run engine template (includers bound') page = some given') : given = given' := by
  have larger := Body.run_within (ascends (Nat.le_max_left bound bound')) body runs
  have larger' := Body.run_within (ascends (Nat.le_max_right bound bound')) body runs'
  exact Option.some.inj (larger.symm.trans larger')

namespace Engine

variable {engine : Engine} {less more : Chain}

theorem runInstance_within (within : less.Within more) {template : Instance} {model : Model}
    {context : Context} {session : Session Body} {rendered : Rendered}
    (runs : runInstance less template model context session = some rendered) :
    runInstance more template model context session = some rendered := by
  unfold runInstance at runs ⊢
  split at runs
  · exact runs
  · obtain ⟨inner, ran, rfl⟩ := Option.map_eq_some_iff.mp runs
    simp only [within _ _ _ _ ran, Option.map_some]

theorem runNamed_within (within : less.Within more) :
    Includer.Within (engine.runNamed less) (engine.runNamed more) := by
  intro name model bag session given runs
  unfold runNamed at runs ⊢
  split at runs
  · contradiction
  · exact runs
  · exact runs
  · next template looked finds =>
      obtain ⟨rendered, ran, rfl⟩ := Option.map_eq_some_iff.mp runs
      simp only [runInstance_within within ran, Option.map_some]

theorem runBody_within {engine : Engine} {bound larger : Nat}
    (within : Chain.Within (engine.chain bound) (engine.chain larger)) {template : Instance}
    {context : Context} {session : Session Body} {given : Except TemplateError Unit × Page}
    (ran : engine.runBody bound template context session = some given) :
    engine.runBody larger template context session = some given :=
  Body.run_within (runNamed_within within) _ ran

theorem chain_within_succ (engine : Engine) (bound : Nat) :
    Chain.Within (engine.chain bound) (engine.chain (bound + 1)) := by
  induction bound with
  | zero => exact fun _ _ _ _ runs => nomatch runs
  | succ bound ih =>
      intro template context session rendered runs
      have body {given} (ran : engine.runBody bound template context session = some given) :
          engine.runBody (bound + 1) template context session = some given :=
        runBody_within ih ran
      apply chain_succ_eq_some_iff.mpr
      cases chain_succ_eq_some_iff.mp runs with
      | failed ran => exact .failed (body ran)
      | ended ran ends => exact .ended (body ran) ends
      | astray ran names looks => exact .astray (body ran) names looks
      | linked ran names looks goes => exact .linked (body ran) names looks (ih _ _ _ _ goes)

theorem chain_within (engine : Engine) {bound larger : Nat} (le : bound ≤ larger) :
    Chain.Within (engine.chain bound) (engine.chain larger) := by
  induction le with
  | refl => exact fun _ _ _ _ runs => runs
  | step _ ih => exact fun _ _ _ _ runs => engine.chain_within_succ _ _ _ _ _ (ih _ _ _ _ runs)

theorem ascends_runNamed (engine : Engine) :
    Includer.Ascends fun bound => engine.runNamed (engine.chain bound) :=
  fun le => runNamed_within (engine.chain_within le)

end Engine
end Templating
