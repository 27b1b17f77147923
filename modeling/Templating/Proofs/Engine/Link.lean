import Templating.Engine.Render

/-!
One link of a chain: the body of a template, and what follows it.

A chain that comes to a result has run the body of its first template, and has failed there, or
ended there without a layout, or failed to find the layout, or gone on with it.
-/

namespace Templating

/-- The context in which the layout of a page is rendered. -/
def Page.chained (page : Page) : Context :=
  { page.context with state := .layoutChaining }.pushBody (.rendered page.output)

namespace Engine

/-- How the body of a template is run by a chain that may go `bound` layouts deep. -/
def runBody (engine : Engine) (bound : Nat) (template : Instance) (context : Context)
    (session : Session Body) : Option (Except TemplateError Unit × Page) :=
  template.body.run engine template (engine.runNamed (engine.chain bound))
    (Page.start template { context with state := .executing } session)

/-- The ways in which a chain comes to a result after its first template. -/
inductive Link (engine : Engine) (bound : Nat) (template : Instance) (context : Context)
    (session : Session Body) : Rendered → Prop where
  | failed (ran : engine.runBody bound template context session = some (.error error, page)) :
      Link engine bound template context session ⟨.error error, page.context, page.session⟩
  | ended (ran : engine.runBody bound template context session = some (.ok (), page))
      (ends : page.layout = none) :
      Link engine bound template context session ⟨.ok page.output, page.context, page.session⟩
  | astray {page : Page} {layout : String} {error : TemplateError} {after : Session Body}
      (ran : engine.runBody bound template context session = some (.ok (), page))
      (names : page.layout = some layout)
      (looks : engine.layoutOf template layout
        (page.session.record (.layoutChained template.name layout)) = some (.error error, after)) :
      Link engine bound template context session ⟨.error error, page.chained, after⟩
  | linked {page : Page} {layout : String} {next : Instance} {after : Session Body}
      {rendered : Rendered}
      (ran : engine.runBody bound template context session = some (.ok (), page))
      (names : page.layout = some layout)
      (looks : engine.layoutOf template layout
        (page.session.record (.layoutChained template.name layout)) = some (.ok next, after))
      (goes : engine.chain bound next page.chained after = some rendered) :
      Link engine bound template context session rendered

/-- A body includes a template as a caller renders it by its name. -/
theorem includeNamed_eq_runNamed (engine : Engine) (chain : Chain) :
    engine.includeNamed chain = engine.runNamed chain := by
  funext name model bag session
  unfold includeNamed runNamed
  split
  · next unknown => simp only [unknown]
  · next found after looks =>
      rcases found with error | _ | template
      · simp only [looks]
      · simp only [looks]
      · simp only [looks]
        cases runInstance chain template model (.withViewBag bag) after <;> rfl

theorem chain_succ_eq_some_iff {engine : Engine} {bound : Nat} {template : Instance}
    {context : Context} {session : Session Body} {rendered : Rendered} :
    engine.chain (bound + 1) template context session = some rendered ↔
      engine.Link bound template context session rendered := by
  constructor
  · intro runs
    simp only [chain, includeNamed_eq_runNamed] at runs
    split at runs
    · contradiction
    · next error page ran =>
        cases runs
        exact .failed ran
    · next page ran =>
        split at runs
        · next ends =>
            cases runs
            exact .ended ran ends
        · next layout names =>
            split at runs
            · contradiction
            · next error after looks =>
                cases runs
                exact .astray ran names looks
            · next next after looks => exact .linked ran names looks runs
  · intro link
    cases link with
    | failed ran =>
        simp only [runBody] at ran
        simp only [chain, includeNamed_eq_runNamed, ran]
    | ended ran ends =>
        simp only [runBody] at ran
        simp only [chain, includeNamed_eq_runNamed, ran, ends]
    | astray ran names looks =>
        simp only [runBody] at ran
        simp only [chain, includeNamed_eq_runNamed, ran, names, looks, Page.chained]
    | linked ran names looks goes =>
        simp only [runBody] at ran
        simp only [Page.chained] at goes
        simp only [chain, includeNamed_eq_runNamed, ran, names, looks, goes]

end Engine
end Templating
