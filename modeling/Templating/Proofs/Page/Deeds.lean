import Templating.Proofs.Markup.Format

/-!
What a body does to the output of its page.

The deeds of a run are the requests of the body, each with the reply that it was given and with the page
before and after it.  A section that is captured is one deed, whatever the body inside it does.  The text
of a deed follows from the request alone, and a run appends the texts of its deeds.
-/

namespace Templating

variable {engine : Engine} {template : Instance} {includer : Includer}

/-- A body that goes on after another runs as the two would run one after the other. -/
theorem Body.run_handle (body : Body) (next : Except TemplateError Unit → Body) (page : Page) :
    (body.handle next).run engine template includer page =
      (body.run engine template includer page).bind fun (result, page) =>
        (next result).run engine template includer page := by
  induction body generalizing page with
  | done => rfl
  | call callback after ih =>
      simp only [handle, run]
      split
      · rfl
      · exact ih _ _
  | captureSection name inner after _ ih =>
      simp only [handle, run]
      split
      · exact ih _ _
      · split
        · rfl
        · exact ih _ _
        · exact ih _ _
  | includeTemplate name model after ih =>
      simp only [handle, run]
      split
      · rfl
      · exact ih _ _

theorem Body.run_sequence_cons (first : Body) (rest : List Body) (page : Page) :
    (sequence (first :: rest)).run engine template includer page =
      (first.run engine template includer page).bind fun
        | (.ok (), next) => (sequence rest).run engine template includer next
        | (.error error, next) => some (.error error, next) := by
  rw [sequence, andThen, run_handle]
  congr 1
  funext (result, next)
  cases result <;> rfl

/-- A request of a body with the reply to it. -/
inductive Operation where
  | call (callback : Callback) (reply : callback.Reply)
  | capture (name : String) (inner : Body) (reply : Except TemplateError Unit)
  | included (name : String) (model : Model) (reply : Except TemplateError Producer)

/-- The text that an operation writes. -/
def Operation.text (encoding : Encoding) : Operation → String
  | .call (.write value) _ => value.markup encoding
  | .call (.writeLiteral value) _ => value.display
  | .call (.writeAttribute declared) _ => declared.format encoding
  | _ => ""

structure Deed where
  before : Page
  operation : Operation
  after : Page

/-- What deeds write, one after the other. -/
def Deed.texts (encoding : Encoding) (deeds : List Deed) : String :=
  String.join (deeds.map fun deed => deed.operation.text encoding)

@[simp]
theorem Deed.texts_nil (encoding : Encoding) : texts encoding [] = "" := rfl

@[simp]
theorem Deed.texts_cons (encoding : Encoding) (deed : Deed) (deeds : List Deed) :
    texts encoding (deed :: deeds) = deed.operation.text encoding ++ texts encoding deeds := by
  simp [texts]

/-- The runs of a body with the deeds, the result and the page that is left. -/
inductive Body.Performs (engine : Engine) (template : Instance) (includer : Includer) :
    Body → Page → List Deed → Except TemplateError Unit → Page → Prop where
  | done {result : Except TemplateError Unit} {page : Page} :
      Performs engine template includer (.done result) page [] result page
  | call {callback : Callback} {reply : callback.Reply} {after : callback.Reply → Body}
      {page next final : Page} {deeds : List Deed} {result : Except TemplateError Unit}
      (answers : page.answer engine template callback = some (reply, next))
      (goes : Performs engine template includer (after reply) next deeds result final) :
      Performs engine template includer (.call callback after) page
        (⟨page, .call callback reply, next⟩ :: deeds) result final
  | capture {name : String} {inner : Body} {after : Except TemplateError Unit → Body}
      {page next final : Page} {reply : Except TemplateError Unit} {deeds : List Deed}
      {result : Except TemplateError Unit}
      (captures : (Body.captureSection name inner .done).run engine template includer page =
        some (reply, next))
      (goes : Performs engine template includer (after reply) next deeds result final) :
      Performs engine template includer (.captureSection name inner after) page
        (⟨page, .capture name inner reply, next⟩ :: deeds) result final
  | included {name : String} {model : Model} {after : Except TemplateError Producer → Body}
      {page final : Page} {text : Except TemplateError String} {session : Session Body}
      {deeds : List Deed} {result : Except TemplateError Unit}
      (includes : includer name model page.context.viewBag page.session = some (text, session))
      (goes : Performs engine template includer (after (text.map .rendered)) { page with session }
        deeds result final) :
      Performs engine template includer (.includeTemplate name model after) page
        (⟨page, .included name model (text.map .rendered), { page with session }⟩ :: deeds) result final

variable {body : Body} {page final : Page} {deeds : List Deed} {result : Except TemplateError Unit}

theorem Body.run_captureSection (name : String) (inner : Body)
    (after : Except TemplateError Unit → Body) (page : Page) :
    (captureSection name inner after).run engine template includer page =
      ((captureSection name inner .done).run engine template includer page).bind fun (reply, next) =>
        (after reply).run engine template includer next :=
  (captureSection name inner .done).run_handle after page

theorem Body.run_eq_some_iff_performs :
    body.run engine template includer page = some (result, final) ↔
      ∃ deeds, body.Performs engine template includer page deeds result final := by
  constructor
  · intro runs
    induction body generalizing page with
    | done =>
        cases runs
        exact ⟨[], .done⟩
    | call callback after ih =>
        simp only [run] at runs
        split at runs
        · contradiction
        · next reply next answers =>
            obtain ⟨deeds, goes⟩ := ih reply runs
            exact ⟨_, .call answers goes⟩
    | captureSection name inner after _ ih =>
        rw [run_captureSection] at runs
        obtain ⟨⟨reply, next⟩, captures, runs⟩ := Option.bind_eq_some_iff.mp runs
        obtain ⟨deeds, goes⟩ := ih reply runs
        exact ⟨_, .capture captures goes⟩
    | includeTemplate name model after ih =>
        simp only [run] at runs
        split at runs
        · contradiction
        · next text session includes =>
            obtain ⟨deeds, goes⟩ := ih _ runs
            exact ⟨_, .included includes goes⟩
  · rintro ⟨deeds, performs⟩
    induction performs with
    | done => rfl
    | call answers _ ih => simp only [run, answers, ih]
    | capture captures _ ih =>
        rw [run_captureSection, captures]
        exact ih
    | included includes _ ih => simp only [run, includes, ih]

/-! ## Outputs -/

theorem Page.output_renderBody (page : Page) : page.renderBody.2.output = page.output := by
  unfold Page.renderBody
  split <;> rfl

theorem Page.output_defineSection (page : Page) (name : String) (producer : Producer) :
    (page.defineSection name producer).2.output = page.output := by
  unfold Page.defineSection
  split <;> rfl

theorem Page.output_answer {next : Page} {callback : Callback} {reply : callback.Reply}
    (answers : page.answer engine template callback = some (reply, next)) :
    next.output = page.output ++ (Operation.call callback reply).text engine.config.encoding := by
  cases callback with
  | write =>
      cases answers
      rfl
  | writeLiteral value =>
      cases answers
      exact value.writeLiteral_eq_append _
  | writeAttribute declared =>
      cases answers
      exact declared.write_eq_append _ _
  | renderBody =>
      have same : page.renderBody.2 = next := congrArg Prod.snd (Option.some.inj answers)
      exact same ▸ page.output_renderBody.trans String.append_empty.symm
  | defineSection name producer =>
      have same : (page.defineSection name producer).2 = next :=
        congrArg Prod.snd (Option.some.inj answers)
      exact same ▸ (page.output_defineSection name producer).trans String.append_empty.symm
  | compile input =>
      simp only [answer] at answers
      split at answers
      · contradiction
      · cases answers
        exact String.append_empty.symm
  | _ =>
      cases answers
      exact String.append_empty.symm

theorem Body.output_captureSection {name : String} {inner : Body} {reply : Except TemplateError Unit}
    {next : Page}
    (captures : (captureSection name inner .done).run engine template includer page =
      some (reply, next)) :
    next.output = page.output := by
  simp only [run] at captures
  split at captures
  · cases captures
    rfl
  · split at captures
    · contradiction
    · cases captures
      rfl
    · cases captures
      exact Page.output_defineSection _ _ _

/-- The output of a page grows by the texts of the deeds, and by nothing else. -/
structure Page.Grows (encoding : Encoding) (page : Page) (deeds : List Deed) (final : Page) : Prop where
  output : final.output = page.output ++ Deed.texts encoding deeds
  each : ∀ past deed future, deeds = past ++ deed :: future →
    deed.before.output = page.output ++ Deed.texts encoding past ∧
      deed.after.output = deed.before.output ++ deed.operation.text encoding

theorem Page.Grows.cons {encoding : Encoding} {next : Page} {operation : Operation}
    (writes : next.output = page.output ++ operation.text encoding)
    (grows : next.Grows encoding deeds final) :
    page.Grows encoding (⟨page, operation, next⟩ :: deeds) final where
  output := by rw [grows.output, writes, Deed.texts_cons, String.append_assoc]
  each past later future split := by
    cases past with
    | nil =>
        cases split
        exact ⟨String.append_empty.symm, writes⟩
    | cons _ past =>
        cases split
        obtain ⟨before, after⟩ := grows.each past later future rfl
        refine ⟨?_, after⟩
        rw [before, writes, Deed.texts_cons, String.append_assoc]

theorem Body.Performs.grows
    (performs : body.Performs engine template includer page deeds result final) :
    page.Grows engine.config.encoding deeds final := by
  induction performs with
  | done => exact ⟨String.append_empty.symm, by simp⟩
  | call answers _ ih => exact .cons (Page.output_answer answers) ih
  | capture captures _ ih =>
      exact .cons ((output_captureSection captures).trans String.append_empty.symm) ih
  | included _ _ ih => exact .cons String.append_empty.symm ih

end Templating
