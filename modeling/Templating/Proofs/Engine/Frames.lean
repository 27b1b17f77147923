import Templating.Proofs.Engine.Stock
import Templating.Proofs.Engine.Turns
import Templating.Proofs.Page.Placing

/-!
Frames around what a template has written.

A frame is a layout that places its body between two texts and names the next frame on the way, or none.
However many frames follow one another, the text of the template stands in them as it is, the first frame
next to it and the last one outermost.
-/

namespace Templating

structure Frame where
  name : String
  before : String
  placing : Placing := .encoded
  after : String
  /-- The number of steps after which the frame names its layout. -/
  naming : Nat := 0

namespace Frame

def steps (frame : Frame) : List Body :=
  [.text frame.before, Fetch.body.ask frame.placing.put, .text frame.after]

/-- The body of a frame that stands in this layout, or in none. -/
def body (frame : Frame) (layout : Option String) : Body :=
  let names := (layout.map fun name => Body.ask (.setLayout name)).toList
  .sequence (frame.steps.take frame.naming ++ names ++ frame.steps.drop frame.naming)

def opening (encoding : Encoding) (frame : Frame) : String :=
  frame.before ++ frame.placing.before encoding

def closing (encoding : Encoding) (frame : Frame) : String :=
  frame.placing.after encoding ++ frame.after

/-- The template of each frame, which stands in the next one. -/
def templates : List Frame → List (String × Body)
  | [] => []
  | frame :: rest => (frame.name, frame.body (rest.head?.map name)) :: templates rest

/-- A text inside frames, of which the first is the innermost. -/
def wrap (encoding : Encoding) : List Frame → String → String
  | [], text => text
  | frame :: rest, text => wrap encoding rest (frame.opening encoding ++ text ++ frame.closing encoding)

theorem wrap_eq (encoding : Encoding) (frames : List Frame) (text : String) :
    wrap encoding frames text =
      String.join (frames.reverse.map (opening encoding)) ++ text ++
        String.join (frames.map (closing encoding)) := by
  induction frames generalizing text with
  | nil => simp [wrap]
  | cons frame rest ih => simp [wrap, ih, String.append_assoc]

variable {engine : Engine} {template : Instance} {includer : Includer} {page : Page}

theorem run_text (text : String) (page : Page) :
    (Body.text text).run engine template includer page =
      some (.ok (), { page with output := page.output ++ text }) := rfl

theorem run_setLayout (name : String) (page : Page) :
    (Body.ask (.setLayout name)).run engine template includer page =
      some (.ok (), { page with layout := some name }) := rfl

theorem run_put_body {placing : Placing} (kept : placing.drops = false) (text : String)
    (rest : List Producer) (bodies : page.context.bodies = .rendered text :: rest) :
    (Fetch.body.ask placing.put).run engine template includer page =
      some (.ok (), { page with
        output := page.output ++ (placing.before engine.config.encoding ++ text ++
          placing.after engine.config.encoding)
        context := { page.context with bodies := rest } }) := by
  have replies : Fetch.body.reply includer page =
      some (.ok (.rendered text), { page with context := { page.context with bodies := rest } }) := by
    simp only [Fetch.reply, Page.renderBody, Context.popBody, bodies]
  rw [Fetch.run_put replies, Placing.placed_of_kept kept]

/-- A frame writes itself around the body on top, takes that body and names its layout. -/
theorem run_body {frame : Frame} (kept : frame.placing.drops = false) {text : String}
    {rest : List Producer} (bodies : page.context.bodies = .rendered text :: rest)
    (layout : Option String) :
    (frame.body layout).run engine template includer page =
      some (.ok (), { page with
        output := page.output ++ wrap engine.config.encoding [frame] text
        layout := layout.or page.layout
        context := { page.context with bodies := rest } }) := by
  have ends (page : Page) :
      (Body.sequence []).run engine template includer page = some (.ok (), page) := rfl
  have whole : page.output ++ frame.before ++ (frame.placing.before engine.config.encoding ++ text ++
      frame.placing.after engine.config.encoding) ++ frame.after =
        page.output ++ wrap engine.config.encoding [frame] text := by
    simp [wrap, opening, closing, String.append_assoc]
  -- The layout may be named before, between or after the other steps.
  rcases position : frame.naming with _ | _ | _ | _ <;> cases layout <;>
    simp [body, steps, position, Body.run_sequence_cons, run_text, run_setLayout,
      run_put_body kept text rest, bodies, ends, whole]

end Frame

/-! ## Where the frames are found -/

/-- An artifact of this body for templates that take the model. -/
def Artifact.Offers (artifact : Artifact Body) (model : Model) (body : Body) : Prop :=
  artifact.loadable = body ∧ artifact.modelType.Takes model

namespace Engine

variable {engine : Engine} {model : Model} {templates : List (String × Body)}
  {Good : Session Body → Prop} {session after : Session Body}

/-- What may be listed under the name of a template: the template, or a failure of some other text than the
resolver's. -/
def Lists (engine : Engine) (model : Model) (templates : List (String × Body)) (key : String)
    (settled : Settled Body) : Prop :=
  ∀ body, (key, body) ∈ templates →
    match settled with
    | .ready artifact => artifact.content.Offers model body
    | .failed fingerprint _ => ∀ text, engine.input? key = some text → text.fingerprint ≠ fingerprint

/-- The engine finds these templates for the model, as long as its session is used for nothing else. -/
inductive Supplies (engine : Engine) (model : Model) (templates : List (String × Body))
    (session : Session Body) : Prop where
  /-- The resolver has them, and what was compiled before does not stand in its way. -/
  | resolved {inputs : List CompileInput} (filled : engine.Filled inputs session)
      (asked : ∀ input ∈ inputs, engine.MakesFitting (engine.Lists model templates) input)
      (resolves : ∀ name body, (name, body) ∈ templates → ∃ text artifact,
        engine.input? name = some text ∧ engine.outcome text = .ok artifact ∧
          artifact.Offers model body) : Supplies engine model templates session
  /-- They have all been compiled before. -/
  | cached {inputs : List CompileInput} (filled : engine.Filled inputs session)
      (gets : ∀ name body, (name, body) ∈ templates → ∃ artifact after,
        session.get name = some (some artifact, after) ∧ artifact.content.Offers model body) :
      Supplies engine model templates session

/-- In good sessions these templates are found for the model, and what that leaves is a good session. -/
structure FindsAll (engine : Engine) (model : Model) (templates : List (String × Body))
    (Good : Session Body → Prop) : Prop where
  record : ∀ {session : Session Body} (event : Event), Good session → Good (session.record event)
  finds : ∀ {session : Session Body} {name : String} {body : Body}, (name, body) ∈ templates →
    Good session → ∃ template after,
      engine.findTemplate name session = some (.ok (some template), after) ∧
        template.artifact.content.Offers model body ∧ template.layout = none ∧ Good after

theorem FindsAll.mono {fewer : List (String × Body)} (all : engine.FindsAll model templates Good)
    (subset : fewer ⊆ templates) : engine.FindsAll model fewer Good :=
  ⟨all.record, fun member => all.finds (subset member)⟩

section Resolved

variable (resolves : ∀ name body, (name, body) ∈ templates → ∃ text artifact,
  engine.input? name = some text ∧ engine.outcome text = .ok artifact ∧ artifact.Offers model body)

include resolves

/-- The resolver's text for a name makes the template of that name and nothing else. -/
theorem makesFitting_of_resolves {name : String} {text : CompileInput}
    (known : engine.input? name = some text) :
    engine.MakesFitting (engine.Lists model templates) text := by
  have key : text.key = name := by simp [CompileInput.key, name_of_input? known]
  intro settled backs body' member'
  rw [key] at member'
  obtain ⟨_, artifact, known', comes, offers⟩ := resolves name body' member'
  cases known.symm.trans known'
  cases settled with
  | ready shared =>
      have same : engine.outcome text = .ok shared.content := backs
      cases comes.symm.trans same
      exact offers
  | failed => cases comes.symm.trans backs.2

theorem findsAll_of_resolves :
    engine.FindsAll model templates (Session.Stocked (engine.Lists model templates)) where
  record event stocked := stocked.record event
  finds {session name body} member stocked := by
    obtain ⟨text, _, known, _⟩ := resolves name body member
    obtain ⟨result, after, finds, left, turnout⟩ :=
      stocked.findTemplate fun _ => makesFitting_of_resolves resolves
    cases turnout with
    | found fit plain => exact ⟨_, after, finds, fit body member, plain, left⟩
    | unknown unresolved => cases known.symm.trans unresolved
    | failed known' fit => exact absurd rfl (fit body member _ known')

end Resolved

theorem findsAll_of_cached :
    engine.FindsAll model templates fun session => ∃ ledger, session.cache.Represents ledger ∧
      ∀ name body, (name, body) ∈ templates → ∃ artifact,
        ledger.artifact? name = some artifact ∧ artifact.content.Offers model body where
  record event good := good
  finds {session name body} member good := by
    obtain ⟨ledger, represents, cached⟩ := good
    obtain ⟨artifact, listed, offers⟩ := cached name body member
    have recorded : (session.record (.templateSought name)).cache.Represents ledger := represents
    obtain ⟨after, gets, touched⟩ := Session.get_represents recorded name
    obtain ⟨template, made, rfl, plain⟩ := engine.exists_newInstance artifact
    rw [listed] at gets
    refine ⟨template, after, by simp only [findTemplate, gets, made, Except.map], offers, plain,
      _, touched, fun other body' member' => ?_⟩
    have same : (ledger.touch name).artifact? other = ledger.artifact? other := by
      simp [Ledger.artifact?, Ledger.touch_find?]
    rw [same]
    exact cached other body' member'

theorem Supplies.findsAll (supplies : engine.Supplies model templates session) :
    ∃ Good, engine.FindsAll model templates Good ∧ Good session := by
  cases supplies with
  | resolved filled asked resolves =>
      exact ⟨_, findsAll_of_resolves resolves, filled.stocked asked⟩
  | cached filled gets =>
      have stocked : session.Stocked fun _ _ => True := filled.stocked fun _ _ _ _ => trivial
      obtain ⟨ledger, represents, _⟩ := stocked
      refine ⟨_, findsAll_of_cached, ledger, represents, fun name body member => ?_⟩
      obtain ⟨artifact, _, got, offers⟩ := gets name body member
      obtain ⟨_, got', _⟩ := Session.get_represents represents name
      obtain ⟨listed, _⟩ := Prod.mk.inj (Option.some.inj (got.symm.trans got'))
      exact ⟨artifact, listed.symm, offers⟩

/-! ## Renders -/

theorem FindsAll.layoutOf (all : engine.FindsAll model templates Good) {name : String} {body : Body}
    (member : (name, body) ∈ templates) (good : Good session) {template : Instance}
    (same : template.model = model) :
    ∃ next after, engine.layoutOf template name session = some (.ok next, after) ∧
      next.body = body ∧ next.model = model ∧ next.layout = none ∧ Good after := by
  obtain ⟨found, after, finds, ⟨carries, takes⟩, plain, left⟩ := all.finds member good
  have binds : found.bindModel template.model = .ok { found with model := template.model } :=
    Instance.bindModel_eq_ok_iff.mpr ⟨same ▸ takes, rfl⟩
  exact ⟨{ found with model := template.model }, after,
    layoutOf_eq_ok_iff.mpr ⟨found, finds, binds⟩, carries, same, plain, left⟩

/-- A frame wraps the output of the template that it is the layout of. -/
theorem runBody_frame {frame : Frame} (kept : frame.placing.drops = false) {template : Instance}
    {layout : Option String} (body : template.body = frame.body layout)
    (plain : template.layout = none) (bound : Nat) (page : Page) (session : Session Body) :
    ∃ final, engine.runBody bound template page.chained session = some (.ok (), final) ∧
      final.output = Frame.wrap engine.config.encoding [frame] page.output ∧
      final.layout = layout ∧ final.session = session := by
  unfold runBody
  rw [body]
  refine ⟨_, Frame.run_body kept rfl layout, String.empty_append, ?_, rfl⟩
  simp [Page.start, plain]

/-- A chain goes on from a template that has ended well through all the frames. -/
theorem FindsAll.chain {frames : List Frame}
    (all : engine.FindsAll model (Frame.templates frames) Good)
    (kept : ∀ frame ∈ frames, frame.placing.drops = false) {bound : Nat} {template : Instance}
    {context : Context} {page : Page} (same : template.model = model)
    (ran : engine.runBody bound template context session = some (.ok (), page))
    (names : page.layout = frames.head?.map Frame.name) (good : Good page.session) :
    ∃ larger rendered, engine.chain larger template context session = some rendered ∧
      rendered.result = .ok (Frame.wrap engine.config.encoding frames page.output) := by
  induction frames generalizing bound template context session page with
  | nil => exact ⟨bound + 1, _, chain_succ_eq_some_iff.mpr (.ended ran names), rfl⟩
  | cons frame rest ih =>
      obtain ⟨first, others⟩ := List.forall_mem_cons.mp kept
      obtain ⟨next, after, looks, body, same', plain, left⟩ :=
        all.layoutOf List.mem_cons_self (all.record (.layoutChained template.name frame.name) good) same
      obtain ⟨final, ran', output, layout, rfl⟩ := runBody_frame first body plain bound page after
      obtain ⟨larger, rendered, goes, result⟩ :=
        ih (all.mono (List.subset_cons_self _ _)) others same' ran' layout left
      -- The template and the rest of the frames have bounds of their own; the larger one suffices for both.
      have ran := runBody_within (engine.chain_within (Nat.le_max_left bound larger)) ran
      have goes := engine.chain_within (Nat.le_max_right bound larger) _ _ _ _ goes
      refine ⟨max bound larger + 1, rendered,
        chain_succ_eq_some_iff.mpr (.linked ran names looks goes), ?_⟩
      rw [result, output]
      rfl

/-- What a template has asked for is written as it is wherever it is placed.  So a text with frames around
it stands between all that they write before it and all that they write after it, whatever the text is. -/
theorem frames_leave_text (engine : Engine) :
    (∀ (template : Instance) (includer : Includer) (page next : Page) (fetch : Fetch)
        (producer : Producer) (placing : Placing),
      fetch.reply includer page = some (.ok producer, next) →
      (fetch.ask placing.put).run engine template includer page =
        some (.ok (), { next with
          output := page.output ++ placing.placed engine.config.encoding producer })) ∧
    ∀ (frames : List Frame) (bound : Nat) (child root : Instance) (model : Model) (context : Context)
        (session : Session Body) (page : Page),
      child.bindModel model = .ok root →
      engine.runBody bound root context session = some (.ok (), page) →
      page.layout = frames.head?.map Frame.name →
      (∀ frame ∈ frames, frame.placing.drops = false) →
      engine.Supplies model (Frame.templates frames) page.session →
      ∃ least rendered,
        (∀ larger, least ≤ larger →
          engine.render larger child model context session = some rendered) ∧
        rendered.result = .ok (String.join (frames.reverse.map (Frame.opening engine.config.encoding)) ++
          page.output ++ String.join (frames.map (Frame.closing engine.config.encoding))) := by
  refine ⟨fun template includer page next fetch producer placing replies =>
    Fetch.run_put replies placing, ?_⟩
  intro frames bound child root model context session page binds ran names kept supplies
  obtain ⟨Good, all, good⟩ := supplies.findsAll
  obtain ⟨_, rfl⟩ := Instance.bindModel_eq_ok_iff.mp binds
  obtain ⟨least, rendered, goes, result⟩ := all.chain kept rfl ran names good
  refine ⟨least, rendered.finish, fun larger le => ?_, by rw [← Frame.wrap_eq]; exact result⟩
  have goes := engine.chain_within le _ _ _ _ goes
  simp only [render, runInstance, binds, goes, Option.map_some]

/-- A text inside a caption, inside the title of an image, inside brackets. -/
def captioned : List Frame :=
  [{ name := "caption", before := "<i>", after := "</i>", naming := 1 },
    { name := "title"
      before := "<img"
      placing :=
        .segment
          { name := "title", opening := ⟨" title='", 0⟩, closing := ⟨"'", 0⟩, segments := [] }
          [{ lead := ⟨"", 0⟩, value := ⟨.text "&", 0⟩ }]
          { lead := ⟨" ", 0⟩, value := ⟨.null, 0⟩ } []
      after := ">"
      naming := 3 },
    { name := "brackets", before := "[", placing := .literal, after := "]" }]

def captionedPage : Instance :=
  .ofBody "page" (.sequence [.ask (.setLayout "caption"), .ask (.write (.text "<"))])

theorem captioned_supplied :
    Supplies (.ofBodies (Frame.templates captioned)) .none (Frame.templates captioned)
      (start (.ofBodies (Frame.templates captioned))) := by
  refine .resolved .start (by simp) fun name body member => ?_
  simp only [captioned, Frame.templates, List.mem_cons, Prod.mk.injEq, List.not_mem_nil,
    or_false] at member
  rcases member with ⟨rfl, rfl⟩ | ⟨rfl, rfl⟩ | ⟨rfl, rfl⟩
  · exact ⟨_, _, rfl, rfl, rfl, .inl rfl⟩
  · exact ⟨_, _, rfl, rfl, rfl, .inl rfl⟩
  · exact ⟨_, _, rfl, rfl, rfl, .inl rfl⟩

def waitingPage : Page where
  output := "<p>"
  layout := none
  context := (Context.withViewBag .empty).pushBody (.rendered "&lt;")
  session := start (.ofBodies [])

/-- What was encoded when it was written is not encoded again, neither in a page nor through the frames. -/
theorem frames_leave_encoded_text :
    ((Fetch.body.ask Placing.encoded.put).run {} captionedPage (fun _ _ _ _ => none) waitingPage).map
        (fun ran => ran.2.output) = some "<p>&lt;" ∧
    ∃ least rendered,
      (∀ larger, least ≤ larger →
        render (.ofBodies (Frame.templates captioned)) larger captionedPage .none (.withViewBag .empty)
          (start (.ofBodies (Frame.templates captioned))) = some rendered) ∧
      rendered.result = .ok "[<img title='&amp; <i>&lt;</i>'>]" := by
  constructor
  · have places := (frames_leave_text {}).1 captionedPage (fun _ _ _ _ => none) waitingPage _ .body
      (.rendered "&lt;") .encoded rfl
    rw [places]
    decide +kernel
  · obtain ⟨root, page, binds, ran, names, output, session⟩ : ∃ root page,
        captionedPage.bindModel .none = .ok root ∧
        runBody (.ofBodies (Frame.templates captioned)) 0 root (.withViewBag .empty)
          (start (.ofBodies (Frame.templates captioned))) = some (.ok (), page) ∧
        page.layout = some "caption" ∧ page.output = "&lt;" ∧
        page.session = start (.ofBodies (Frame.templates captioned)) :=
      ⟨_, _, rfl, rfl, rfl, by decide +kernel, rfl⟩
    obtain ⟨least, rendered, renders, result⟩ :=
      (frames_leave_text (.ofBodies (Frame.templates captioned))).2 captioned 0 captionedPage root .none
        (.withViewBag .empty) _ page binds ran names (by decide) (session ▸ captioned_supplied)
    refine ⟨least, rendered, renders, ?_⟩
    rw [result, output]
    decide +kernel

end Engine

end Templating
