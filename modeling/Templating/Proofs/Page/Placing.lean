import Templating.Proofs.Page.Deeds

/-!
Placing what was captured.

A template places a producer as a value, on one of the two paths or in a segment of an attribute.  What a
producer holds is markup, which every path writes as it is, and a producer that is empty is null.
-/

namespace Templating

def Segment.fill (segment : Segment) (value : Value) : Segment :=
  { segment with value := { segment.value with value } }

/-- How a template places a producer. -/
inductive Placing where
  | encoded
  | literal
  /-- As the value of a segment that has others before and behind it. -/
  | segment (declared : Attribute) (front : List Segment) (here : Segment) (back : List Segment)

namespace Placing

def callback : Placing → Producer → Callback
  | encoded, producer => .write (toValue producer)
  | literal, producer => .writeLiteral (toValue producer)
  | segment declared front here back, producer =>
      .writeAttribute { declared with segments := front ++ here.fill (toValue producer) :: back }

/-- Whether an attribute is dropped, whatever is placed in it. -/
def drops : Placing → Bool
  | segment _ front _ back => (front ++ back).any Segment.isFalse
  | _ => false

/-- The text that leads what is placed. -/
def before (encoding : Encoding) : Placing → String
  | segment declared front here _ =>
      match declared.pieces encoding front with
      | [] => declared.opening.value
      | first :: rest =>
          declared.opening.value ++ first.2 ++ Attribute.spread rest ++ here.lead.value
  | _ => ""

def after (encoding : Encoding) : Placing → String
  | segment declared _ _ back =>
      Attribute.spread (declared.pieces encoding back) ++ declared.closing.value
  | _ => ""

/-- The text where nothing is placed, which is that of an attribute without the segment. -/
def without (encoding : Encoding) : Placing → String
  | segment declared front _ back =>
      if (front ++ back).isEmpty then ""
      else { declared with segments := front ++ back }.format encoding
  | _ => ""

/-- The text of a producer with what its placing writes around it. -/
def placed (placing : Placing) (encoding : Encoding) : Producer → String
  | .empty => placing.without encoding
  | .rendered text =>
      if placing.drops then "" else placing.before encoding ++ text ++ placing.after encoding

variable {placing : Placing}

theorem placed_of_drops (drops : placing.drops = true) (encoding : Encoding) (text : String) :
    placing.placed encoding (.rendered text) = "" :=
  if_pos drops

theorem placed_of_kept (kept : placing.drops = false) (encoding : Encoding) (text : String) :
    placing.placed encoding (.rendered text) =
      placing.before encoding ++ text ++ placing.after encoding :=
  if_neg (Bool.eq_false_iff.mp kept)

end Placing

namespace Attribute

variable {declared : Attribute} {encoding : Encoding} {front back : List Segment} {filled : Segment}

theorem pieces_append (declared : Attribute) (encoding : Encoding) (front back : List Segment) :
    declared.pieces encoding (front ++ back) =
      declared.pieces encoding front ++ declared.pieces encoding back :=
  List.filterMap_append

theorem spread_append (front back : List (String × String)) :
    spread (front ++ back) = spread front ++ spread back := by
  simp [spread]

theorem any_isFalse_place (kept : filled.isFalse = false) :
    (front ++ filled :: back).any Segment.isFalse = (front ++ back).any Segment.isFalse := by
  simp [kept]

theorem format_of_dropped (present : declared.segments ≠ [])
    (falsy : declared.segments.any Segment.isFalse = true) : declared.format encoding = "" := by
  simp [format, present, falsy]

theorem format_of_pieces (present : declared.segments ≠ [])
    (kept : declared.segments.any Segment.isFalse = false) {first : String × String}
    {rest : List (String × String)}
    (shown : declared.pieces encoding declared.segments = first :: rest) :
    declared.format encoding =
      declared.opening.value ++ first.2 ++ spread rest ++ declared.closing.value := by
  have any : declared.segments.isEmpty = false := by simpa using present
  simp only [format, any, kept, shown, Bool.false_eq_true, if_false]

/-- A null segment might as well not be there, except that an attribute of nothing else is left out. -/
theorem format_of_null (null : filled.value.value = .null) :
    { declared with segments := front ++ filled :: back }.format encoding =
      if (front ++ back).isEmpty then ""
      else { declared with segments := front ++ back }.format encoding := by
  have kept : filled.isFalse = false := by simp [Segment.isFalse, null]
  have skipped : declared.pieces encoding (front ++ filled :: back) =
      declared.pieces encoding (front ++ back) := by
    simp [pieces, Segment.piece?, null]
  unfold pieces at skipped
  unfold format
  simp only [any_isFalse_place kept, pieces, skipped]
  cases front <;> cases back <;> simp

/-- Markup stands in an attribute as it is, between what the other segments write. -/
theorem format_of_raw {text : String} (raw : filled.value.value = .raw text) :
    { declared with segments := front ++ filled :: back }.format encoding =
      (Placing.segment declared front filled back).placed encoding (.rendered text) := by
  have kept : filled.isFalse = false := by simp [Segment.isFalse, raw]
  have piece : filled.piece? declared.name encoding = some (filled.lead.value, text) := by
    simp only [Segment.piece?, raw, Segment.written]
    split <;> rfl
  have whole : declared.pieces encoding (front ++ filled :: back) =
      declared.pieces encoding front ++ (filled.lead.value, text) :: declared.pieces encoding back := by
    rw [pieces_append, pieces, pieces, List.filterMap_cons, piece]
    rfl
  have present : front ++ filled :: back ≠ [] := by simp
  cases dropped : (Placing.segment declared front filled back).drops with
  | true =>
      rw [Placing.placed_of_drops dropped]
      exact format_of_dropped present ((any_isFalse_place kept).trans dropped)
  | false =>
      have stays := (any_isFalse_place kept).trans dropped
      rw [Placing.placed_of_kept dropped]
      simp only [Placing.before, Placing.after]
      cases first : declared.pieces encoding front with
      | nil =>
          rw [first] at whole
          exact (format_of_pieces present stays whole).trans (by simp [String.append_assoc])
      | cons piece rest =>
          rw [first] at whole
          exact (format_of_pieces present stays whole).trans
            (by simp [spread_append, String.append_assoc])

end Attribute

/-- A producer is placed with its text as it is, and nothing of the page changes but the output. -/
theorem Placing.run_callback (placing : Placing) (producer : Producer) (engine : Engine)
    (template : Instance) (includer : Includer) (page : Page) :
    (Body.ask (placing.callback producer)).run engine template includer page =
      some (.ok (), { page with
        output := page.output ++ placing.placed engine.config.encoding producer }) := by
  cases placing with
  | encoded | literal =>
      cases producer with
      | empty => rfl
      | rendered text =>
          rw [placed_of_kept rfl]
          simp only [before, after, String.empty_append, String.append_empty]
          rfl
  | segment declared front here back =>
      let filled : Attribute :=
        { declared with segments := front ++ here.fill (toValue producer) :: back }
      have text : filled.format engine.config.encoding =
          (segment declared front here back).placed engine.config.encoding producer := by
        cases producer with
        | empty => exact Attribute.format_of_null rfl
        | rendered text => exact Attribute.format_of_raw rfl
      have written := filled.write_eq_append page.output engine.config.encoding
      rw [text] at written
      exact congrArg (fun output => some (Except.ok (), { page with output })) written

/-- The requests that a producer can be the reply to. -/
inductive Fetch where
  | body
  | named (name : String) (required : Bool)
  | included (name : String) (model : Model)

namespace Fetch

def ask : Fetch → (Except TemplateError Producer → Body) → Body
  | body, next => .call .renderBody next
  | named name required, next => .call (.renderSection name required) next
  | included name model, next => .includeTemplate name model next

def reply (includer : Includer) (page : Page) : Fetch → Option (Except TemplateError Producer × Page)
  | body => some page.renderBody
  | named name required => some ((page.context.renderSection name required).mapError .usage, page)
  | included name model =>
      (includer name model page.context.viewBag page.session).map fun (text, session) =>
        (text.map .rendered, { page with session })

variable {engine : Engine} {template : Instance} {includer : Includer} {page next : Page}

theorem run_ask (fetch : Fetch) (rest : Except TemplateError Producer → Body) :
    (fetch.ask rest).run engine template includer page =
      (fetch.reply includer page).bind fun (reply, next) =>
        (rest reply).run engine template includer next := by
  cases fetch with
  | body | named => rfl
  | included name model =>
      simp only [ask, reply, Body.run]
      cases includer name model page.context.viewBag page.session <;> rfl

theorem output_reply {fetch : Fetch} {reply : Except TemplateError Producer}
    (replies : fetch.reply includer page = some (reply, next)) : next.output = page.output := by
  cases fetch with
  | body =>
      have same : page.renderBody.2 = next := congrArg Prod.snd (Option.some.inj replies)
      exact same ▸ page.output_renderBody
  | named =>
      cases replies
      rfl
  | included =>
      obtain ⟨_, _, same⟩ := Option.map_eq_some_iff.mp replies
      cases same
      rfl

end Fetch

/-- Places the producer of a reply, and fails with the reply if it is an error. -/
def Placing.put (placing : Placing) : Except TemplateError Producer → Body :=
  Body.orFail fun producer => .ask (placing.callback producer)

/-- Whatever a producer was asked for with, it is placed behind what the page had. -/
theorem Fetch.run_put {engine : Engine} {template : Instance} {includer : Includer} {page next : Page}
    {fetch : Fetch} {producer : Producer}
    (replies : fetch.reply includer page = some (.ok producer, next)) (placing : Placing) :
    (fetch.ask placing.put).run engine template includer page =
      some (.ok (), { next with
        output := page.output ++ placing.placed engine.config.encoding producer }) := by
  rw [run_ask, replies, ← output_reply replies]
  exact placing.run_callback producer engine template includer next

end Templating
