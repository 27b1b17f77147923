import Templating.Proofs.Engine.Course
import Templating.Proofs.Page.Deeds

/-!
Sections that are captured.

The body inside a section writes to an output of its own.  However the capture ends, the page has its
output back and no text that it held is lost; so nothing that a body asks for takes text from its page.
-/

namespace Templating

variable {engine : Engine} {template : Instance} {includer : Includer}

/-- The ways in which the capture of a section ends. -/
inductive Page.Captures (engine : Engine) (template : Instance) (includer : Includer) (page : Page)
    (name : String) (inner : Body) : Except TemplateError Unit → Page → Prop where
  /-- The section is defined already, and the body does not run. -/
  | refused (defined : page.context.isSectionDefined name = true) :
      Captures engine template includer page name inner (.error (.usage (.duplicateSection name))) page
  | broken {deeds : List Deed} {error : TemplateError} {inside : Page}
      (undefined : page.context.isSectionDefined name = false)
      (performs : inner.Performs engine template includer { page with output := "" } deeds
        (.error error) inside) :
      Captures engine template includer page name inner (.error error)
        { inside with output := page.output }
  /-- The body has defined the section itself, and that definition stays. -/
  | preempted {deeds : List Deed} {inside : Page}
      (undefined : page.context.isSectionDefined name = false)
      (performs : inner.Performs engine template includer { page with output := "" } deeds (.ok ())
        inside)
      (defined : inside.context.isSectionDefined name = true) :
      Captures engine template includer page name inner (.error (.usage (.duplicateSection name)))
        { inside with output := page.output }
  | captured {deeds : List Deed} {inside : Page} {context : Context}
      (undefined : page.context.isSectionDefined name = false)
      (performs : inner.Performs engine template includer { page with output := "" } deeds (.ok ())
        inside)
      (defines : inside.context.defineSection name
        (.rendered (Deed.texts engine.config.encoding deeds)) = .ok context) :
      Captures engine template includer page name inner (.ok ())
        ({ inside with output := page.output, context }.record (.sectionDefined name))

variable {page after : Page} {name : String} {inner : Body} {reply : Except TemplateError Unit}

/-- A body that starts with an empty output leaves just what it writes. -/
theorem Body.Performs.output_of_empty {deeds : List Deed} {result : Except TemplateError Unit}
    {inside : Page}
    (performs : inner.Performs engine template includer { page with output := "" } deeds result inside) :
    inside.output = Deed.texts engine.config.encoding deeds :=
  performs.grows.output.trans String.empty_append

theorem Body.captures_of_run
    (captures : (captureSection name inner .done).run engine template includer page =
      some (reply, after)) :
    page.Captures engine template includer name inner reply after := by
  simp only [run] at captures
  split at captures
  · next defined =>
      cases captures
      exact .refused defined
  · next undefined =>
      have undefined := Bool.eq_false_iff.mpr undefined
      split at captures
      · contradiction
      · next error inside ran =>
          cases captures
          obtain ⟨deeds, performs⟩ := run_eq_some_iff_performs.mp ran
          exact .broken undefined performs
      · next inside ran =>
          obtain ⟨deeds, performs⟩ := run_eq_some_iff_performs.mp ran
          rw [performs.output_of_empty] at captures
          unfold Page.defineSection at captures
          split at captures
          · next error fails =>
              cases captures
              obtain ⟨defined, rfl⟩ := Context.defineSection_eq_error_iff.mp fails
              exact .preempted undefined performs defined
          · next context defines =>
              cases captures
              have captured := Page.Captures.captured undefined performs defines
              exact captured

theorem Page.Captures.run (captures : page.Captures engine template includer name inner reply after) :
    (Body.captureSection name inner .done).run engine template includer page = some (reply, after) := by
  cases captures with
  | refused defined => simp only [Body.run, defined, if_true]
  | broken undefined performs =>
      have ran := Body.run_eq_some_iff_performs.mpr ⟨_, performs⟩
      simp only [Body.run, undefined, Bool.false_eq_true, if_false, ran]
  | @preempted _ inside undefined performs defined =>
      have ran := Body.run_eq_some_iff_performs.mpr ⟨_, performs⟩
      have fails (producer : Producer) : inside.context.defineSection name producer =
          .error (.duplicateSection name) :=
        Context.defineSection_eq_error_iff.mpr ⟨defined, rfl⟩
      simp only [Body.run, undefined, Bool.false_eq_true, if_false, ran, Page.defineSection, fails]
  | captured undefined performs defines =>
      have ran := Body.run_eq_some_iff_performs.mpr ⟨_, performs⟩
      simp only [Body.run, undefined, Bool.false_eq_true, if_false, ran, Page.defineSection,
        performs.output_of_empty, defines]

theorem Body.captureSection_eq_some_iff :
    (captureSection name inner .done).run engine template includer page = some (reply, after) ↔
      page.Captures engine template includer name inner reply after :=
  ⟨captures_of_run, Page.Captures.run⟩

/-- What a capture that ends with `reply` makes of its page. -/
structure Page.CapturesExactly (engine : Engine) (template : Instance) (includer : Includer)
    (page : Page) (name : String) (inner : Body) (reply : Except TemplateError Unit) (after : Page) :
    Prop where
  output : after.output = page.output
  refused : page.context.isSectionDefined name = true →
    reply = .error (.usage (.duplicateSection name)) ∧ after = page
  /-- A body for a section that is not defined has run into an empty output.  Its error is the error of
  the capture, a definition of its own stays, and else what it has written is the section. -/
  ran : page.context.isSectionDefined name = false → ∃ deeds result inside,
    inner.Performs engine template includer { page with output := "" } deeds result inside ∧
    (∀ error, result = .error error → reply = .error error ∧ after.context = inside.context) ∧
    (result = .ok () → inside.context.isSectionDefined name = true →
      reply = .error (.usage (.duplicateSection name)) ∧ after.context = inside.context) ∧
    (result = .ok () → inside.context.isSectionDefined name = false → reply = .ok () ∧
      after.context = { inside.context with
        sections := inside.context.sections.insert name
          (.rendered (Deed.texts engine.config.encoding deeds)) })

theorem Page.Captures.exactly (captures : page.Captures engine template includer name inner reply after) :
    page.CapturesExactly engine template includer name inner reply after := by
  cases captures with
  | refused defined => exact ⟨rfl, fun _ => ⟨rfl, rfl⟩, by simp [defined]⟩
  | broken undefined performs =>
      refine ⟨rfl, by simp [undefined], fun _ => ⟨_, _, _, performs, ?_, by simp, by simp⟩⟩
      rintro _ ⟨⟩
      exact ⟨rfl, rfl⟩
  | preempted undefined performs defined =>
      exact ⟨rfl, by simp [undefined], fun _ =>
        ⟨_, _, _, performs, by simp, fun _ _ => ⟨rfl, rfl⟩, by simp [defined]⟩⟩
  | captured undefined performs defines =>
      obtain ⟨free, rfl⟩ := Context.defineSection_eq_ok_iff.mp defines
      refine ⟨rfl, by simp [undefined], fun _ =>
        ⟨_, _, _, performs, by simp, fun _ defined => ?_, fun _ _ => ⟨rfl, rfl⟩⟩⟩
      simp [Context.isSectionDefined, Fields.contains, free] at defined

/-- Each deed that captures a section ends as a capture does. -/
theorem Body.Performs.captures {body : Body} {deeds : List Deed} {result : Except TemplateError Unit}
    {final : Page} (performs : body.Performs engine template includer page deeds result final) :
    ∀ deed ∈ deeds, ∀ name inner reply, deed.operation = .capture name inner reply →
      deed.before.Captures engine template includer name inner reply deed.after := by
  induction performs with
  | done => simp
  | call _ _ ih | included _ _ ih => simpa using ih
  | capture captures _ ih =>
      refine List.forall_mem_cons.mpr ⟨?_, ih⟩
      rintro _ _ _ ⟨⟩
      exact captures_of_run captures

/-- However a capture ends, the page has its output back, and the section is defined with just the text
that the body inside has written, or not by this capture.  What a body does to the output of its page is
to append the texts of its deeds, those that capture sections included. -/
theorem captures_leave_output (engine : Engine) (template : Instance) (includer : Includer) :
    (∀ (page : Page) name inner reply after,
      ((Body.captureSection name inner .done).run engine template includer page = some (reply, after) ↔
        page.Captures engine template includer name inner reply after) ∧
      (page.Captures engine template includer name inner reply after →
        page.CapturesExactly engine template includer name inner reply after)) ∧
    (∀ (body : Body) page result final,
      body.run engine template includer page = some (result, final) ↔
        ∃ deeds, body.Performs engine template includer page deeds result final) ∧
    ∀ (body : Body) (page : Page) (deeds : List Deed) result final,
      body.Performs engine template includer page deeds result final →
      page.Grows engine.config.encoding deeds final ∧
      ∀ deed ∈ deeds, ∀ name inner reply, deed.operation = .capture name inner reply →
        deed.before.Captures engine template includer name inner reply deed.after :=
  ⟨fun _ _ _ _ _ => ⟨Body.captureSection_eq_some_iff, Page.Captures.exactly⟩,
    fun _ _ _ _ => Body.run_eq_some_iff_performs,
    fun _ _ _ _ _ performs => ⟨performs.grows, performs.captures⟩⟩

/-- A section with another one in it, which breaks off after it has written something. -/
def asideBody : Body :=
  .sequence
    [.ask (.write (.text "<")),
      .captureSection "note" (.sequence [.text "lost", .call .renderBody .place]) fun _ => .skip,
      .text "!"]

def asidePage : Page where
  output := "before"
  layout := none
  context := .withViewBag .empty
  session := Engine.start {}

def asideTemplate : Instance :=
  .ofBody "page" (.captureSection "aside" asideBody .done)

/-- What was written in the inner section is lost, what was written around it is the outer one, and the
output of the page is as before. -/
theorem aside_leaves_output :
    ∃ deeds after,
      asideTemplate.body.Performs {} asideTemplate (fun _ _ _ _ => none) asidePage deeds (.ok ())
        after ∧
      asidePage.CapturesExactly {} asideTemplate (fun _ _ _ _ => none) "aside" asideBody (.ok ())
        after ∧
      asidePage.Grows .html deeds after ∧
      after.output = "before" ∧ after.context.sections.get? "aside" = some (.rendered "&lt;!") := by
  obtain ⟨captures, performs, grows⟩ := captures_leave_output {} asideTemplate fun _ _ _ _ => none
  obtain ⟨after, ran, output, defined⟩ : ∃ after,
      asideTemplate.body.run {} asideTemplate (fun _ _ _ _ => none) asidePage = some (.ok (), after) ∧
        after.output = "before" ∧ after.context.sections.get? "aside" = some (.rendered "&lt;!") :=
    ⟨_, rfl, rfl, by decide +kernel⟩
  obtain ⟨captured, exactly⟩ := captures asidePage "aside" asideBody (.ok ()) after
  obtain ⟨deeds, performed⟩ := (performs _ _ _ _).mp ran
  obtain ⟨grown, _⟩ := grows _ _ _ _ _ performed
  exact ⟨deeds, after, performed, exactly (captured.mp ran), grown, output, defined⟩

end Templating
