import Templating.Page
import Templating.Proofs.Context.Acts

/-!
What a body does to the context of its page.

The trace of a run lists the acts on the context in the order in which they happen, with the answers
that the body has been given, those of the bodies of captured sections included.  A template that is
included runs in a context of its own and leaves a single act in the trace.
-/

namespace Templating

open Context (Act Step Steps)

def Callback.acts : (callback : Callback) → callback.Reply → List Act
  | .renderBody, result => [.pop result]
  | .defineSection name producer, result => [.define name (result.map fun _ => producer)]
  | .renderSection name required, result => [.render name required result]
  | .isSectionDefined name, found => [.seek name found]
  | .viewBag, _ => [.look]
  | .setInBag name value, _ => [.changeBag fun bag => (ViewBag.set bag name value).2]
  | .removeFromBag name, _ => [.changeBag fun bag => (ViewBag.remove bag name).2]
  | _, _ => []

theorem Callback.not_mem_acts_includeTemplate {callback : Callback} {given : callback.Reply}
    {name : String} {model : Model} {reply : Except TemplateError Producer} :
    Act.includeTemplate name model reply ∉ callback.acts given := by
  intro member
  cases callback with
  | renderBody | defineSection | renderSection | isSectionDefined | viewBag | setInBag
  | removeFromBag => cases List.mem_singleton.mp member
  | _ => contradiction

/-- The runs of a body with the acts on the context, the result and the page that is left. -/
inductive Body.Trace (engine : Engine) (template : Instance) (includer : Includer) :
    Body → Page → List Act → Except TemplateError Unit → Page → Prop where
  | done {result : Except TemplateError Unit} {page : Page} :
      Trace engine template includer (.done result) page [] result page
  | call {callback : Callback} {reply : callback.Reply} {after : callback.Reply → Body}
      {page next final : Page} {acts : List Act} {result : Except TemplateError Unit}
      (answers : page.answer engine template callback = some (reply, next))
      (goes : Trace engine template includer (after reply) next acts result final) :
      Trace engine template includer (.call callback after) page (callback.acts reply ++ acts) result
        final
  | refused {name : String} {inner : Body} {after : Except TemplateError Unit → Body}
      {page final : Page} {acts : List Act} {result : Except TemplateError Unit}
      (defined : page.context.isSectionDefined name = true)
      (goes : Trace engine template includer (after (.error (.usage (.duplicateSection name)))) page
        acts result final) :
      Trace engine template includer (.captureSection name inner after) page
        (.define name (.error (.usage (.duplicateSection name))) :: acts) result final
  | broken {name : String} {inner : Body} {after : Except TemplateError Unit → Body}
      {page inside final : Page} {captured acts : List Act} {error : TemplateError}
      {result : Except TemplateError Unit}
      (undefined : page.context.isSectionDefined name = false)
      (breaks : Trace engine template includer inner { page with output := "" } captured
        (.error error) inside)
      (goes : Trace engine template includer (after (.error error))
        { inside with output := page.output } acts result final) :
      Trace engine template includer (.captureSection name inner after) page (captured ++ acts) result
        final
  | captured {name : String} {inner : Body} {after : Except TemplateError Unit → Body}
      {page inside next final : Page} {captured acts : List Act}
      {reply result : Except TemplateError Unit}
      (undefined : page.context.isSectionDefined name = false)
      (captures : Trace engine template includer inner { page with output := "" } captured (.ok ())
        inside)
      (defines : { inside with output := page.output }.defineSection name (.rendered inside.output) =
        (reply, next))
      (goes : Trace engine template includer (after reply) next acts result final) :
      Trace engine template includer (.captureSection name inner after) page
        (captured ++ .define name (reply.map fun _ => .rendered inside.output) :: acts) result final
  | included {name : String} {model : Model} {after : Except TemplateError Producer → Body}
      {page final : Page} {text : Except TemplateError String} {session : Session Body}
      {acts : List Act} {result : Except TemplateError Unit}
      (includes : includer name model page.context.viewBag page.session = some (text, session))
      (goes : Trace engine template includer (after (text.map .rendered)) { page with session } acts
        result final) :
      Trace engine template includer (.includeTemplate name model after) page
        (.includeTemplate name model (text.map .rendered) :: acts) result final

variable {engine : Engine} {template : Instance} {includer : Includer} {page final : Page}
  {acts : List Act} {result : Except TemplateError Unit}

theorem Body.Trace.run {body : Body}
    (trace : body.Trace engine template includer page acts result final) :
    body.run engine template includer page = some (result, final) := by
  induction trace with
  | done => rfl
  | call answers _ ih => simp only [Body.run, answers, ih]
  | refused defined _ ih => simp only [Body.run, defined, if_true, ih]
  | broken undefined _ _ ihInner ih =>
      simp only [Body.run, undefined, Bool.false_eq_true, if_false, ihInner, ih]
  | captured undefined _ defines _ ihInner ih =>
      simp only [Body.run, undefined, Bool.false_eq_true, if_false, ihInner, defines, ih]
  | included includes _ ih => simp only [Body.run, includes, ih]

theorem Body.exists_trace (body : Body)
    (runs : body.run engine template includer page = some (result, final)) :
    ∃ acts, body.Trace engine template includer page acts result final := by
  induction body generalizing page final result with
  | done =>
      cases runs
      exact ⟨[], .done⟩
  | call callback after ih =>
      simp only [Body.run] at runs
      split at runs
      · contradiction
      · next reply next answers =>
          obtain ⟨acts, goes⟩ := ih reply runs
          exact ⟨_, .call answers goes⟩
  | captureSection name inner after ihInner ih =>
      simp only [Body.run] at runs
      split at runs
      · next defined =>
          obtain ⟨acts, goes⟩ := ih _ runs
          exact ⟨_, .refused defined goes⟩
      · next undefined =>
          have undefined := Bool.eq_false_iff.mpr undefined
          split at runs
          · contradiction
          · next error inside ran =>
              obtain ⟨captured, breaks⟩ := ihInner ran
              obtain ⟨acts, goes⟩ := ih _ runs
              exact ⟨_, .broken undefined breaks goes⟩
          · next inside ran =>
              obtain ⟨captured, captures⟩ := ihInner ran
              obtain ⟨acts, goes⟩ := ih _ runs
              exact ⟨_, .captured undefined captures rfl goes⟩
  | includeTemplate name model after ih =>
      simp only [Body.run] at runs
      split at runs
      · contradiction
      · next included session includes =>
          obtain ⟨acts, goes⟩ := ih _ runs
          exact ⟨_, .included includes goes⟩

theorem Body.run_eq_some_iff {body : Body} :
    body.run engine template includer page = some (result, final) ↔
      ∃ acts, body.Trace engine template includer page acts result final :=
  ⟨body.exists_trace, fun ⟨_, trace⟩ => trace.run⟩

/-! ## Traces and contexts -/

theorem Page.defineSection_step {next : Page} {name : String} {producer : Producer}
    {reply : Except TemplateError Unit} (defines : page.defineSection name producer = (reply, next)) :
    Step page.context (.define name (reply.map fun _ => producer)) next.context := by
  unfold Page.defineSection at defines
  split at defines
  · next fails =>
      cases defines
      exact .defineFails fails
  · next success =>
      cases defines
      exact .define success

theorem Page.answer_steps {next : Page} {callback : Callback} {reply : callback.Reply}
    (answers : page.answer engine template callback = some (reply, next)) :
    Steps page.context (callback.acts reply) next.context := by
  cases callback with
  | renderBody =>
      simp only [Page.answer, Page.renderBody] at answers
      split at answers
      · next fails =>
          cases answers
          exact .single (.popFails fails)
      · next pops =>
          cases answers
          exact .single (.pop pops)
  | defineSection name producer =>
      exact .single (Page.defineSection_step (Option.some.inj answers))
  | renderSection name required =>
      cases answers
      exact .single (.render rfl)
  | isSectionDefined name =>
      cases answers
      exact .single (.seek rfl)
  | viewBag =>
      cases answers
      exact .single .look
  | setInBag name value =>
      cases answers
      exact .single .changeBag
  | removeFromBag name =>
      cases answers
      exact .single .changeBag
  | compile input =>
      simp only [Page.answer] at answers
      split at answers
      · contradiction
      · cases answers
        exact .nil
  | _ =>
      cases answers
      exact .nil

theorem Body.Trace.steps {body : Body}
    (trace : body.Trace engine template includer page acts result final) :
    Steps page.context acts final.context := by
  induction trace with
  | done => exact .nil
  | call answers _ ih => exact (Page.answer_steps answers).append ih
  | refused defined _ ih => exact .cons (.duplicate defined) ih
  | broken _ _ _ ihInner ih => exact ihInner.append ih
  | captured _ _ defines _ ihInner ih =>
      have defined := Page.defineSection_step defines
      exact ihInner.append (.cons defined ih)
  | included _ _ ih => exact .cons .includeTemplate ih

/-- The acts that the body of a template may do. -/
def Context.Act.OfBody : Act → Prop
  | .push _ | .enter _ | .reset => False
  | _ => True

theorem Callback.acts_ofBody {callback : Callback} {reply : callback.Reply} {act : Act}
    (member : act ∈ callback.acts reply) : act.OfBody := by
  cases callback with
  | renderBody | defineSection | renderSection | isSectionDefined | viewBag | setInBag
  | removeFromBag =>
      obtain rfl := List.mem_singleton.mp member
      trivial
  | _ => contradiction

theorem Body.Trace.ofBody {body : Body}
    (trace : body.Trace engine template includer page acts result final) :
    ∀ act ∈ acts, act.OfBody := by
  induction trace with
  | done => simp
  | call _ _ ih =>
      rw [List.forall_mem_append]
      exact ⟨fun _ => Callback.acts_ofBody, ih⟩
  | refused _ _ ih => exact List.forall_mem_cons.mpr ⟨trivial, ih⟩
  | broken _ _ _ ihInner ih => exact List.forall_mem_append.mpr ⟨ihInner, ih⟩
  | captured _ _ _ _ ihInner ih =>
      exact List.forall_mem_append.mpr ⟨ihInner, List.forall_mem_cons.mpr ⟨trivial, ih⟩⟩
  | included _ _ ih => exact List.forall_mem_cons.mpr ⟨trivial, ih⟩

end Templating
