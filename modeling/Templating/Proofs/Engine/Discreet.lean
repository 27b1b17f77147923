import Templating.Proofs.Engine.Lookup
import Templating.Proofs.Markup.Outline

/-!
Bodies that neither look at the texts of a model nor write them as they are.

A body is discreet if two of its runs ask the same of their pages as long as the replies are alike, that
is, as long as they differ in the texts of values and in what stands between the marks of rendered
output.  What it asks for may differ in the same way, though only where the page encodes the value or
takes rendered output.  The names in the view bag under which texts of models may be kept are part of
the policy; under other names runs have to agree.
-/

namespace Templating

open Entity (marks)

namespace Fields

variable {α : Type u} {β : Type v} {view : String → α → β} {fields fields' : Fields α}

/-- The entries with a view of each value in place of the value. -/
def outline (view : String → α → β) (fields : Fields α) : List (String × β) :=
  fields.entries.map fun entry => (entry.1, view entry.1 entry.2)

theorem lookup_outline (view : String → α → β) (fields : Fields α) (name : String) :
    (fields.outline view).lookup name = (fields.get? name).map (view name) := by
  have mapped (entries : List (String × α)) :
      (entries.map fun entry => (entry.1, view entry.1 entry.2)).lookup name =
        (entries.lookup name).map (view name) := by
    induction entries with
    | nil => rfl
    | cons entry rest ih =>
        rw [List.map_cons, List.lookup_cons, List.lookup_cons]
        split
        · next same => simp [eq_of_beq same]
        · exact ih
  exact mapped fields.entries

theorem get?_of_outline (same : fields.outline view = fields'.outline view) (name : String) :
    (fields.get? name).map (view name) = (fields'.get? name).map (view name) := by
  rw [← lookup_outline, ← lookup_outline, same]

theorem contains_of_outline (same : fields.outline view = fields'.outline view) (name : String) :
    fields.contains name = fields'.contains name := by
  have found := congrArg Option.isSome (get?_of_outline same name)
  simpa [contains] using found

theorem map_insertEntry (view : String → α → β) (name : String) (value : α)
    (entries : List (String × α)) :
    (insertEntry name value entries).map (fun entry => (entry.1, view entry.1 entry.2)) =
      insertEntry name (view name value) (entries.map fun entry => (entry.1, view entry.1 entry.2)) := by
  induction entries with
  | nil => rfl
  | cons entry rest ih =>
      simp only [insertEntry, List.map_cons]
      split
      · rfl
      · split
        · rfl
        · simp [ih]

theorem insert_of_outline (same : fields.outline view = fields'.outline view) {name : String}
    {value value' : α} (values : view name value = view name value') :
    (fields.insert name value).outline view = (fields'.insert name value').outline view := by
  unfold outline at same
  simp only [outline, insert, map_insertEntry, values, same]

theorem erase_of_outline (same : fields.outline view = fields'.outline view) (name : String) :
    (fields.erase name).outline view = (fields'.erase name).outline view := by
  have erased (fields : Fields α) : (fields.erase name).outline view =
      (fields.outline view).filter fun entry => entry.1 ≠ name := by
    simp [outline, erase, List.filter_map, Function.comp_def]
  rw [erased, erased, same]

end Fields

/-! ## What two runs may differ in -/

/-- What the bodies of an engine are trusted with. -/
structure Policy where
  /-- The inputs that may be compiled. -/
  admits : CompileInput → Prop
  /-- The names in the view bag under which texts of models may be kept. -/
  hides : String → Bool

def Policy.view (policy : Policy) (name : String) (value : Value) : Value :=
  if policy.hides name then value.outline else value

def Policy.bag (policy : Policy) (bag : ViewBag) : List (String × Value) :=
  bag.outline policy.view

inductive Model.Alike : Model → Model → Prop where
  | none : Alike .none .none
  | typed (type : ModelType) (same : content.outline = content'.outline) :
      Alike (.typed ⟨type, content⟩) (.typed ⟨type, content'⟩)
  | dynamic
      (same : fields.outline (fun _ => Value.outline) = fields'.outline (fun _ => Value.outline)) :
      Alike (.dynamic fields) (.dynamic fields')

structure Context.Alike (policy : Policy) (context context' : Context) : Prop where
  viewBag : policy.bag context.viewBag = policy.bag context'.viewBag
  bodies : context.bodies.map Producer.outline = context'.bodies.map Producer.outline
  sections : context.sections.outline (fun _ => Producer.outline) =
    context'.sections.outline (fun _ => Producer.outline)
  state : context.state = context'.state

/-- Two requests that a body may make in two runs, with the replies that may then differ. -/
inductive Callback.Alike (policy : Policy) :
    (callback callback' : Callback) → (callback.Reply → callback'.Reply → Prop) → Prop where
  | write (written : value.Written value') :
      Alike policy (.write value) (.write value') fun _ _ => True
  | writeLiteral (verbatim : value.Verbatim value') :
      Alike policy (.writeLiteral value) (.writeLiteral value') fun _ _ => True
  | writeAttribute (alike : declared.Alike declared') :
      Alike policy (.writeAttribute declared) (.writeAttribute declared') fun _ _ => True
  | output : Alike policy .output .output fun text text' => marks text = marks text'
  | setLayout (name : String) : Alike policy (.setLayout name) (.setLayout name) fun _ _ => True
  | layout : Alike policy .layout .layout fun name name' => name = name'
  | renderBody : Alike policy .renderBody .renderBody fun result result' =>
      result.map Producer.outline = result'.map Producer.outline
  | defineSection (name : String) (same : producer.outline = producer'.outline) :
      Alike policy (.defineSection name producer) (.defineSection name producer')
        fun result result' => result = result'
  | renderSection (name : String) (required : Bool) :
      Alike policy (.renderSection name required) (.renderSection name required)
        fun result result' => result.map Producer.outline = result'.map Producer.outline
  | isSectionDefined (name : String) :
      Alike policy (.isSectionDefined name) (.isSectionDefined name) fun found found' =>
        found = found'
  | model : Alike policy .model .model fun model model' => model.Alike model'
  | field (name : String) : Alike policy (.field name) (.field name) fun value value' =>
      value.map Value.outline = value'.map Value.outline
  | typedModel (type : ModelType) :
      Alike policy (.typedModel type) (.typedModel type) fun result result' =>
        result.map Value.outline = result'.map Value.outline
  | viewBag : Alike policy .viewBag .viewBag fun bag bag' => policy.bag bag = policy.bag bag'
  | setInBag (name : String) (same : policy.view name value = policy.view name value') :
      Alike policy (.setInBag name value) (.setInBag name value') fun previous previous' =>
        previous.map (policy.view name) = previous'.map (policy.view name)
  | removeFromBag (name : String) :
      Alike policy (.removeFromBag name) (.removeFromBag name) fun previous previous' =>
        previous.map (policy.view name) = previous'.map (policy.view name)
  | templateName : Alike policy .templateName .templateName fun name name' => name = name'
  | compile (admitted : policy.admits input) :
      Alike policy (.compile input) (.compile input) fun result result' => result = result'
  | note (text text' : String) : Alike policy (.note text) (.note text') fun _ _ => True

/-- Two bodies that ask alike of their pages as long as the replies are alike. -/
inductive Body.Alike (policy : Policy) : Body → Body → Prop where
  | done (result : Except TemplateError Unit) : Alike policy (.done result) (.done result)
  | call {callback callback' : Callback} {replies : callback.Reply → callback'.Reply → Prop}
      {next : callback.Reply → Body} {next' : callback'.Reply → Body}
      (asks : callback.Alike policy callback' replies)
      (goes : ∀ reply reply', replies reply reply' → Alike policy (next reply) (next' reply')) :
      Alike policy (.call callback next) (.call callback' next')
  | captureSection (name : String) {inner inner' : Body} {next next' : Except TemplateError Unit → Body}
      (captures : Alike policy inner inner')
      (goes : ∀ result, Alike policy (next result) (next' result)) :
      Alike policy (.captureSection name inner next) (.captureSection name inner' next')
  | includeTemplate (name : String) {model model' : Model}
      {next next' : Except TemplateError Producer → Body} (models : model.Alike model')
      (goes : ∀ result result', result.map Producer.outline = result'.map Producer.outline →
        Alike policy (next result) (next' result')) :
      Alike policy (.includeTemplate name model next) (.includeTemplate name model' next')

/-- A body that neither looks at texts of a model or at rendered output nor writes such texts where
they are not encoded. -/
def Body.Discreet (policy : Policy) (body : Body) : Prop :=
  body.Alike policy body

namespace Body

variable {policy : Policy}

theorem Alike.handle {first first' : Body} {next next' : Except TemplateError Unit → Body}
    (alike : first.Alike policy first') (goes : ∀ result, (next result).Alike policy (next' result)) :
    (first.handle next).Alike policy (first'.handle next') := by
  induction alike with
  | done result => exact goes result
  | call asks _ ih => exact .call asks ih
  | captureSection name captures _ _ ih => exact .captureSection name captures ih
  | includeTemplate name models _ ih => exact .includeTemplate name models ih

theorem Alike.andThen {first first' second second' : Body} (alike : first.Alike policy first')
    (goes : second.Alike policy second') :
    (first.andThen second).Alike policy (first'.andThen second') := by
  refine alike.handle fun result => ?_
  cases result with
  | error error => exact .done _
  | ok => exact goes

theorem Discreet.sequence {bodies : List Body} (discreet : ∀ body ∈ bodies, body.Discreet policy) :
    (Body.sequence bodies).Discreet policy := by
  induction bodies with
  | nil => exact .done _
  | cons first rest ih =>
      have second : (Body.sequence rest).Discreet policy :=
        ih fun body member => discreet body (List.mem_cons_of_mem _ member)
      exact Alike.andThen (discreet first List.mem_cons_self) second

theorem Alike.ask {callback callback' : Callback} {replies : callback.Reply → callback'.Reply → Prop}
    (asks : callback.Alike policy callback' replies) :
    (Body.ask callback).Alike policy (Body.ask callback') :=
  .call asks fun _ _ _ => .done _

theorem Alike.orFail {view : α → β} {next next' : α → Body} {result result' : Except TemplateError α}
    (same : result.map view = result'.map view)
    (goes : ∀ value value', view value = view value' →
      (next value).Alike policy (next' value')) :
    (Body.orFail next result).Alike policy (Body.orFail next' result') := by
  cases result <;> cases result' <;> simp only [Except.map, reduceCtorEq, Except.error.injEq,
    Except.ok.injEq] at same
  · exact same ▸ .done _
  · exact goes _ _ same

end Body

namespace Context.Alike

variable {policy : Policy} {context context' : Context}

theorem isSectionDefined (alike : context.Alike policy context') (name : String) :
    context.isSectionDefined name = context'.isSectionDefined name :=
  Fields.contains_of_outline alike.sections name

theorem renderSection (alike : context.Alike policy context') (name : String) (required : Bool) :
    (context.renderSection name required).map Producer.outline =
      (context'.renderSection name required).map Producer.outline := by
  have found := Fields.get?_of_outline alike.sections name
  unfold Context.renderSection
  cases section_ : context.sections.get? name <;> cases section_' : context'.sections.get? name <;>
    simp only [section_, section_', Option.map_none, Option.map_some, reduceCtorEq,
      Option.some.injEq] at found ⊢
  simp only [Except.map, found]

end Context.Alike

end Templating
