import Templating.Proofs.Engine.Ranks
import Templating.Proofs.Engine.Turns

/-!
Bodies and chains that end because names have ranks.

A body ends if all that it may include is rendered, and a chain ends if its body does and the layout is
of a lower rank.  So a chain that starts at some rank needs no larger bound than that rank, while a body
that may name templates of any rank needs a bound that is not known before it runs.
-/

namespace Templating

variable {ranks : Ranks} {names : String → Prop} {engine : Engine}

/-! ## Bodies -/

structure Page.KeepsTo (ranks : Ranks) (names : String → Prop) (page : Page) : Prop where
  session : ranks.Suits page.session
  layout : ∀ layout ∈ page.layout, names layout

theorem Page.KeepsTo.withOutput {page : Page} (good : page.KeepsTo ranks names) (output : String) :
    { page with output }.KeepsTo ranks names :=
  ⟨good.session, good.layout⟩

theorem Page.KeepsTo.defineSection {page next : Page} {name : String} {producer : Producer}
    {reply : Except TemplateError Unit} (good : page.KeepsTo ranks names)
    (defines : page.defineSection name producer = (reply, next)) : next.KeepsTo ranks names := by
  unfold Page.defineSection at defines
  split at defines
  · cases defines
    exact good
  · cases defines
    exact ⟨good.session.record _, good.layout⟩

theorem Page.KeepsTo.answer {page : Page} (good : page.KeepsTo ranks names)
    (order : ranks.Order engine) (template : Instance) {callback : Callback}
    (keeps : callback.KeepsTo ranks names) :
    ∃ reply next, page.answer engine template callback = some (reply, next) ∧
      next.KeepsTo ranks names := by
  cases callback with
  | setLayout name =>
      have named : names name := keeps
      exact ⟨(), _, rfl, good.session, by simpa using named⟩
  | compile input =>
      obtain ⟨result, after, compiles, left, _⟩ := good.session.compile (order.admitted input keeps)
      exact ⟨result.map Instance.name, { page with session := after },
        by simp only [Page.answer, compiles], left, good.layout⟩
  | note text => exact ⟨(), _, rfl, good.session.record _, good.layout⟩
  | defineSection name producer => exact ⟨_, _, rfl, good.defineSection rfl⟩
  | renderBody =>
      refine ⟨page.renderBody.1, page.renderBody.2, rfl, ?_⟩
      unfold Page.renderBody
      split <;> exact ⟨good.session, good.layout⟩
  | _ => exact ⟨_, _, rfl, good.session, good.layout⟩

theorem Instance.KeepsTo.start {template : Instance} (keeps : template.KeepsTo ranks names)
    (context : Context) {session : Session Body} (suits : ranks.Suits session) :
    (Page.start template { context with state := .executing } session).KeepsTo ranks names :=
  ⟨suits, keeps.layout⟩

/-- The templates of these names are rendered, with one bound or another, in all sessions that suit the
ranks. -/
def Ranks.Renders (ranks : Ranks) (includers : Nat → Includer) (names : String → Prop) : Prop :=
  ∀ name model bag session, names name → ranks.Suits session →
    ∃ bound result after, includers bound name model bag session = some (result, after) ∧
      ranks.Suits after

/-- A body runs to its end if all that it may include is rendered. -/
theorem Body.KeepsTo.run (order : ranks.Order engine) (template : Instance)
    {includers : Nat → Includer} (renders : ranks.Renders includers names)
    (ascends : Includer.Ascends includers) {body : Body} (keeps : body.KeepsTo ranks names)
    {page : Page} (good : page.KeepsTo ranks names) :
    ∃ bound result final, body.run engine template (includers bound) page = some (result, final) ∧
      final.KeepsTo ranks names := by
  -- Each request is answered with a bound of its own; the largest of them suffices for all.
  induction body generalizing page with
  | done result => exact ⟨0, result, page, rfl, good⟩
  | call callback next ih =>
      obtain ⟨asks, goes⟩ := keeps
      obtain ⟨reply, answered, answers, kept⟩ := good.answer order template asks
      obtain ⟨bound, result, final, ran, ends⟩ := ih reply (goes reply) kept
      exact ⟨bound, result, final, by simp only [Body.run, answers, ran], ends⟩
  | captureSection name inner next ihInner ih =>
      obtain ⟨captures, goes⟩ := keeps
      cases defined : page.context.isSectionDefined name with
      | true =>
          let refusal : Except TemplateError Unit := .error (.usage (.duplicateSection name))
          obtain ⟨bound, result, final, ran, ends⟩ := ih refusal (goes refusal) good
          exact ⟨bound, result, final, by simp only [Body.run, defined, if_true, ran, refusal], ends⟩
      | false =>
          obtain ⟨bound, outcome, inside, captured, kept⟩ := ihInner captures (good.withOutput "")
          have restored := kept.withOutput page.output
          cases outcome with
          | error error =>
              obtain ⟨bound', result, final, ran, ends⟩ := ih (.error error) (goes _) restored
              have captured := Body.run_within (ascends (Nat.le_max_left bound bound')) _ captured
              have ran := Body.run_within (ascends (Nat.le_max_right bound bound')) _ ran
              exact ⟨max bound bound', result, final,
                by simp only [Body.run, defined, Bool.false_eq_true, if_false, captured, ran], ends⟩
          | ok =>
              let definition := { inside with output := page.output }.defineSection name
                (.rendered inside.output)
              obtain ⟨bound', result, final, ran, ends⟩ :=
                ih definition.1 (goes _) (restored.defineSection rfl)
              have captured := Body.run_within (ascends (Nat.le_max_left bound bound')) _ captured
              have ran := Body.run_within (ascends (Nat.le_max_right bound bound')) _ ran
              exact ⟨max bound bound', result, final, by
                simp only [Body.run, defined, Bool.false_eq_true, if_false, captured]
                exact ran, ends⟩
  | includeTemplate name model next ih =>
      obtain ⟨named, goes⟩ := keeps
      obtain ⟨bound, reply, after, includes, left⟩ :=
        renders name model page.context.viewBag page.session named good.session
      have kept : { page with session := after }.KeepsTo ranks names := ⟨left, good.layout⟩
      obtain ⟨bound', result, final, ran, ends⟩ := ih (reply.map .rendered) (goes _) kept
      have includes := ascends (Nat.le_max_left bound bound') _ _ _ _ _ includes
      have ran := Body.run_within (ascends (Nat.le_max_right bound bound')) _ ran
      exact ⟨max bound bound', result, final, by simp only [Body.run, includes, ran], ends⟩

section Family

variable {template : Instance} {includers : Nat → Includer} {bound : Nat}
  (order : ranks.Order engine) (renders : ranks.Renders includers names)
  (ascends : Includer.Ascends includers)

include order renders ascends

/-- Wherever a body has come to an end, it has left a page that keeps to its names. -/
theorem Body.KeepsTo.of_run {body : Body} (keeps : body.KeepsTo ranks names) {page final : Page}
    (good : page.KeepsTo ranks names) {result : Except TemplateError Unit}
    (ran : body.run engine template (includers bound) page = some (result, final)) :
    final.KeepsTo ranks names := by
  obtain ⟨_, _, _, ran', kept⟩ := keeps.run order template renders ascends good
  cases Body.run_unique ascends ran ran'
  exact kept

theorem Body.Visits.keepsTo {body later : Body} {page now : Page}
    (visits : body.Visits engine template (includers bound) page later now)
    (keeps : body.KeepsTo ranks names) (good : page.KeepsTo ranks names) :
    later.KeepsTo ranks names ∧ now.KeepsTo ranks names := by
  induction visits with
  | here => exact ⟨keeps, good⟩
  | call answers _ ih =>
      obtain ⟨_, _, answers', kept⟩ := good.answer order template keeps.1
      cases answers.symm.trans answers'
      exact ih (keeps.2 _) kept
  | refused _ _ ih => exact ih (keeps.2 _) good
  | inside _ _ ih => exact ih keeps.1 (good.withOutput "")
  | broken _ breaks _ ih =>
      have kept := keeps.1.of_run order renders ascends (good.withOutput "") breaks
      exact ih (keeps.2 _) (kept.withOutput _)
  | captured _ captures defines _ ih =>
      have kept := keeps.1.of_run order renders ascends (good.withOutput "") captures
      exact ih (keeps.2 _) ((kept.withOutput _).defineSection defines)
  | included includes _ ih =>
      obtain ⟨_, _, _, includes', left⟩ := renders _ _ _ _ keeps.1 good.session
      cases ascends.unique includes includes'
      exact ih (keeps.2 _) ⟨left, good.layout⟩

end Family

/-! ## Chains -/

namespace Ranks

variable {bound limit : Nat} {template : Instance} {context : Context} {session : Session Body}
  {name : String}

theorem Below.ranked (below : ranks.Below limit name) : ranks.Ranked name := by
  obtain ⟨lower, ranked, _⟩ := below
  exact ⟨lower, ranked⟩

theorem Below.mono {larger : Nat} (below : ranks.Below limit name) (le : limit ≤ larger) :
    ranks.Below larger name := by
  obtain ⟨lower, ranked, less⟩ := below
  exact ⟨lower, ranked, Nat.lt_of_lt_of_le less le⟩

/-- A chain from a template of this rank comes to a result with this bound. -/
def Finishes (ranks : Ranks) (engine : Engine) (bound limit : Nat) : Prop :=
  ∀ template context session, Instance.KeepsTo ranks (ranks.Below limit) template →
    ranks.Suits session →
    ∃ rendered, engine.chain bound template context session = some rendered ∧
      ranks.Suits rendered.session

theorem Finishes.runInstance (finishes : ranks.Finishes engine bound limit)
    (keeps : template.KeepsTo ranks (ranks.Below limit)) (model : Model) (context : Context)
    (suits : ranks.Suits session) :
    ∃ rendered, Engine.runInstance (engine.chain bound) template model context session =
      some rendered ∧ ranks.Suits rendered.session := by
  cases binds : template.bindModel model with
  | error error =>
      exact ⟨⟨.error (.usage error), context, session⟩, by simp only [Engine.runInstance, binds], suits⟩
  | ok root =>
      obtain ⟨_, rfl⟩ := Instance.bindModel_eq_ok_iff.mp binds
      obtain ⟨rendered, ran, left⟩ :=
        finishes { template with model } context session ⟨keeps.body, keeps.layout⟩ suits
      exact ⟨rendered.finish, by simp only [Engine.runInstance, binds, ran, Option.map_some], left⟩

theorem Finishes.runNamed (finishes : ranks.Finishes engine bound limit) (order : ranks.Order engine)
    (ranked : ranks.rank name = some limit) (model : Model) (bag : ViewBag)
    (suits : ranks.Suits session) :
    ∃ result after, engine.runNamed (engine.chain bound) name model bag session =
      some (result, after) ∧ ranks.Suits after := by
  obtain ⟨result, found, finds, left, keeps⟩ := suits.findTemplate order name
  unfold Engine.runNamed
  match result with
  | .error error => exact ⟨.error error, found, by simp only [finds], left⟩
  | .ok none =>
      exact ⟨.error (.usage (.templateNotFound name)), found, by simp only [finds], left⟩
  | .ok (some template) =>
      obtain ⟨rendered, ran, left⟩ :=
        finishes.runInstance (keeps template limit rfl ranked) model (.withViewBag bag) left
      exact ⟨rendered.result, rendered.session, by simp only [finds, ran, Option.map_some], left⟩

theorem Suits.layoutOf (suits : ranks.Suits session) (order : ranks.Order engine)
    (template : Instance) (name : String) :
    ∃ result after, engine.layoutOf template name session = some (result, after) ∧
      ranks.Suits after ∧ ∀ next limit, result = .ok next → ranks.rank name = some limit →
        next.KeepsTo ranks (ranks.Below limit) := by
  obtain ⟨result, after, finds, left, keeps⟩ := suits.findTemplate order name
  unfold Engine.layoutOf
  match result with
  | .error error => exact ⟨.error error, after, by simp only [finds], left, by simp⟩
  | .ok none =>
      exact ⟨.error (.usage (.layoutNotFound name)), after, by simp only [finds], left, by simp⟩
  | .ok (some layout) =>
      refine ⟨(layout.bindModel template.model).mapError .usage, after, by simp only [finds], left,
        fun next limit binds ranked => ?_⟩
      cases bound : layout.bindModel template.model with
      | error error => simp [bound] at binds
      | ok bound' =>
          obtain ⟨_, rfl⟩ := Instance.bindModel_eq_ok_iff.mp bound
          have found := keeps layout limit rfl ranked
          simp only [bound, mapError_ok, Except.ok.injEq] at binds
          exact binds ▸ ⟨found.body, found.layout⟩

/-- A chain goes on to a result from a body that has ended with a layout of lower rank, or none. -/
theorem finishes_of_runBody (order : ranks.Order engine)
    (rest : ∀ limit < bound, ranks.Finishes engine bound limit) {result : Except TemplateError Unit}
    {page : Page} (ran : engine.runBody bound template context session = some (result, page))
    (kept : page.KeepsTo ranks (ranks.Below bound)) :
    ∃ rendered, engine.chain (bound + 1) template context session = some rendered ∧
      ranks.Suits rendered.session := by
  match result with
  | .error error => exact ⟨_, Engine.chain_succ_eq_some_iff.mpr (.failed ran), kept.session⟩
  | .ok () =>
      cases names : page.layout with
      | none => exact ⟨_, Engine.chain_succ_eq_some_iff.mpr (.ended ran names), kept.session⟩
      | some layout =>
          obtain ⟨lower, ranked, less⟩ := kept.layout layout names
          obtain ⟨found, after, looks, left, keeps⟩ :=
            (kept.session.record (.layoutChained template.name layout)).layoutOf order template layout
          cases found with
          | error error =>
              exact ⟨_, Engine.chain_succ_eq_some_iff.mpr (.astray ran names looks), left⟩
          | ok next =>
              obtain ⟨rendered, goes, left⟩ :=
                rest lower less next page.chained after (keeps next lower rfl ranked) left
              exact ⟨rendered, Engine.chain_succ_eq_some_iff.mpr (.linked ran names looks goes), left⟩

theorem finishes_of_lt (order : ranks.Order engine) (less : limit < bound) :
    ranks.Finishes engine bound limit := by
  induction bound generalizing limit with
  | zero => exact absurd less (Nat.not_lt_zero _)
  | succ bound ih =>
      intro template context session keeps suits
      -- Layouts and includes are at least one rank lower, and there is one less of the bound for them.
      have renders : ranks.Renders (fun _ => engine.runNamed (engine.chain bound))
          (ranks.Below limit) := by
        rintro name model bag session ⟨lower, ranked, lower_lt⟩ suits
        exact ⟨0, (ih (by omega)).runNamed order ranked model bag suits⟩
      obtain ⟨_, result, page, ran, kept⟩ :=
        keeps.body.run order template renders (Includer.ascends_const _) (keeps.start context suits)
      exact finishes_of_runBody order (fun _ => ih) ran
        ⟨kept.session, fun layout names => (kept.layout layout names).mono (by omega)⟩

theorem renders_of_ranked (order : ranks.Order engine)
    (ranked : ∀ name, names name → ranks.Ranked name) :
    ranks.Renders (fun bound => engine.runNamed (engine.chain bound)) names := by
  intro name model bag session named suits
  obtain ⟨limit, isRanked⟩ := ranked name named
  have finishes := finishes_of_lt order (Nat.lt_succ_self limit)
  exact ⟨limit + 1, finishes.runNamed order isRanked model bag suits⟩

end Ranks

end Templating
