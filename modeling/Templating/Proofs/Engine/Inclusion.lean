import Templating.Proofs.Engine.Course
import Templating.Proofs.Engine.Independence

/-!
Templates that are included.

An include comes to what a run of the same template by name comes to, with a copy of the view bag at the
moment of the include.  The page that includes sees the result and nothing else, and the template that is
included sees nothing of the page but the copy.
-/

namespace Templating

open Context (Act Steps)

variable {engine : Engine} {template : Instance} {page after : Page} {name : String} {model : Model}
  {reply : Except TemplateError Producer}

theorem append_eq_append_cons_cases {front back past future : List α} {entry : α}
    (split : front ++ back = past ++ entry :: future) :
    (∃ rest, front = past ++ entry :: rest ∧ future = rest ++ back) ∨
      ∃ rest, past = front ++ rest ∧ back = rest ++ entry :: future := by
  obtain ⟨rest, rfl, same⟩ | ⟨rest, rfl, same⟩ := List.append_eq_append_iff.mp split
  · exact .inr ⟨rest, rfl, same⟩
  · cases rest with
    | nil => exact .inr ⟨[], by simp, by simpa using same.symm⟩
    | cons first rest =>
        cases same
        exact .inl ⟨rest, rfl, rfl⟩

/-- On the way from one context to another some page includes a template and is answered `reply`. -/
def Includer.Serves (includer : Includer) (name : String) (model : Model)
    (reply : Except TemplateError Producer) (before : Context) (past future : List Act)
    (after : Context) : Prop :=
  ∃ (now : Page) (text : Except TemplateError String) (session : Session Body),
    Steps before past now.context ∧
    includer name model now.context.viewBag now.session = some (text, session) ∧
    reply = text.map .rendered ∧ Steps now.context future after

namespace Includer.Serves

variable {includer : Includer} {start before after final : Context} {acts past future : List Act}

theorem later (first : Steps start acts before)
    (serves : includer.Serves name model reply before past future after) :
    includer.Serves name model reply start (acts ++ past) future after := by
  obtain ⟨now, text, session, steps, ran, same, rest⟩ := serves
  exact ⟨now, text, session, first.append steps, ran, same, rest⟩

theorem sooner (serves : includer.Serves name model reply before past future after)
    (last : Steps after acts final) :
    includer.Serves name model reply before past (future ++ acts) final := by
  obtain ⟨now, text, session, steps, ran, same, rest⟩ := serves
  exact ⟨now, text, session, steps, ran, same, rest.append last⟩

end Includer.Serves

/-- Each include in a trace is made by some page on the way. -/
theorem Body.Trace.serves {includer : Includer} {body : Body} {acts past future : List Act}
    {result : Except TemplateError Unit} {final : Page}
    (trace : body.Trace engine template includer page acts result final)
    (split : acts = past ++ .includeTemplate name model reply :: future) :
    includer.Serves name model reply page.context past future final.context := by
  induction trace generalizing past future with
  | done => simp at split
  | call answers goes ih =>
      obtain ⟨rest, same, _⟩ | ⟨rest, rfl, rfl⟩ := append_eq_append_cons_cases split
      · have member : Act.includeTemplate name model reply ∈
            past ++ .includeTemplate name model reply :: rest := by simp
        rw [← same] at member
        exact (Callback.not_mem_acts_includeTemplate member).elim
      · exact .later (Page.answer_steps answers) (ih rfl)
  | refused defined goes ih =>
      cases past with
      | nil => cases split
      | cons _ past =>
          cases split
          exact .later (.single (.duplicate defined)) (ih rfl)
  | broken undefined breaks goes ihInner ih =>
      obtain ⟨rest, rfl, rfl⟩ | ⟨rest, rfl, rfl⟩ := append_eq_append_cons_cases split
      · exact (ihInner rfl).sooner goes.steps
      · exact .later breaks.steps (ih rfl)
  | captured undefined captures defines goes ihInner ih =>
      have defined := Page.defineSection_step defines
      obtain ⟨rest, rfl, rfl⟩ | ⟨rest, rfl, defining⟩ := append_eq_append_cons_cases split
      · exact (ihInner rfl).sooner (.cons defined goes.steps)
      · cases rest with
        | nil => cases defining
        | cons _ rest =>
            cases defining
            exact .later captures.steps (.later (.single defined) (ih rfl))
  | included includes goes ih =>
      cases past with
      | nil =>
          cases split
          exact ⟨_, _, _, .nil, includes, rfl, goes.steps⟩
      | cons _ past =>
          cases split
          exact .later (.single .includeTemplate) (ih rfl)

end Templating
