import Templating.Proofs.Engine.Finishing

/-!
Renders of templates that names have ranks for.

The layouts of a chain are of lower and lower ranks, and so are the templates that are included from it,
so that no chain and no nest of includes goes deeper than the rank that it starts at.
-/

namespace Templating

variable {ranks : Ranks} {names : String → Prop} {engine : Engine}

/-! ## Turns -/

/-- Ranked names, with all names of lower ranks. -/
structure Ranks.Closed (ranks : Ranks) (names : String → Prop) : Prop where
  ranked : ∀ name, names name → ranks.Ranked name
  lower : ∀ name limit, names name → ranks.rank name = some limit →
    ∀ other, ranks.Below limit other → names other

theorem Ranks.closed_ranked (ranks : Ranks) : ranks.Closed ranks.Ranked where
  ranked _ := id
  lower _ _ _ _ _ := Below.ranked

theorem Ranks.closed_below (ranks : Ranks) (limit : Nat) : ranks.Closed (ranks.Below limit) where
  ranked _ := Below.ranked
  lower := by
    rintro name limit ⟨_, ranked, less⟩ ranked' other below
    cases ranked.symm.trans ranked'
    exact below.mono (Nat.le_of_lt less)

theorem Body.KeepsTo.mono {names' : String → Prop} (subset : ∀ name, names name → names' name)
    {body : Body} (keeps : body.KeepsTo ranks names) : body.KeepsTo ranks names' := by
  induction body with
  | done => trivial
  | call callback next ih =>
      refine ⟨?_, fun reply => ih reply (keeps.2 reply)⟩
      cases callback with
      | setLayout name => exact subset name keeps.1
      | compile input => exact keeps.1
      | _ => trivial
  | captureSection name inner next ihInner ih =>
      exact ⟨ihInner keeps.1, fun reply => ih reply (keeps.2 reply)⟩
  | includeTemplate name model next ih =>
      exact ⟨subset name keeps.1, fun reply => ih reply (keeps.2 reply)⟩

namespace Turn

structure KeepsTo (ranks : Ranks) (names : String → Prop) (turn : Turn) : Prop where
  template : turn.template.KeepsTo ranks names
  session : ranks.Suits turn.session

namespace KeepsTo

variable {turn next inner start : Turn} {name : String} {model given : Model} {bound limit : Nat}

theorem mono {names' : String → Prop} (subset : ∀ name, names name → names' name)
    (keeps : turn.KeepsTo ranks names) : turn.KeepsTo ranks names' where
  template.body := keeps.template.body.mono subset
  template.layout layout isLayout := subset layout (keeps.template.layout layout isLayout)
  session := keeps.session

theorem bind (keeps : turn.KeepsTo ranks names) (binds : turn.bind model = .ok next) :
    next.KeepsTo ranks names := by
  obtain ⟨_, rfl⟩ := Turn.bind_eq_ok_iff.mp binds
  exact ⟨⟨keeps.template.body, keeps.template.layout⟩, keeps.session⟩

section Steps

variable (order : ranks.Order engine) (closed : ranks.Closed names)

include order closed

theorem follows (keeps : turn.KeepsTo ranks names) (follows : engine.Follows turn next) :
    ∃ name limit, names name ∧ ranks.rank name = some limit ∧
      next.KeepsTo ranks (ranks.Below limit) := by
  obtain ⟨bound, page, name, ran, isLayout, _, looks⟩ := Engine.follows_iff.mp follows
  have kept := keeps.template.body.of_run order (Ranks.renders_of_ranked order closed.ranked)
    engine.ascends_runNamed (keeps.template.start turn.context keeps.session) ran
  have named := kept.layout name isLayout
  obtain ⟨limit, isRanked⟩ := closed.ranked name named
  obtain ⟨_, _, looks', left, keeps'⟩ :=
    (kept.session.record (.layoutChained turn.template.name name)).layoutOf order turn.template name
  cases looks.symm.trans looks'
  exact ⟨name, limit, named, isRanked, keeps' _ limit rfl isRanked, left⟩

theorem enters (keeps : turn.KeepsTo ranks names) (enters : engine.Enters turn name model inner) :
    names name ∧ ∃ limit, ranks.rank name = some limit ∧ inner.KeepsTo ranks (ranks.Below limit) := by
  obtain ⟨bound, now, after, visits, _, finds⟩ := enters
  obtain ⟨⟨named, _⟩, kept⟩ := visits.keepsTo order (Ranks.renders_of_ranked order closed.ranked)
    engine.ascends_runNamed keeps.template.body
    (keeps.template.start turn.context keeps.session)
  obtain ⟨limit, isRanked⟩ := closed.ranked name named
  obtain ⟨_, _, finds', left, keeps'⟩ := kept.session.findTemplate order name
  cases finds.symm.trans finds'
  exact ⟨named, limit, isRanked, keeps' _ limit rfl isRanked, left⟩

theorem executed (keeps : start.KeepsTo ranks names)
    (executed : engine.Executed start model turn given) : turn.KeepsTo ranks names := by
  induction executed with
  | root binds => exact keeps.bind binds
  | layout _ follows ih =>
      obtain ⟨name, limit, named, ranked, lower⟩ := ih.follows order closed follows
      exact lower.mono (closed.lower name limit named ranked)
  | included _ enters binds ih =>
      obtain ⟨named, limit, ranked, lower⟩ := ih.enters order closed enters
      exact (lower.mono (closed.lower _ limit named ranked)).bind binds

end Steps

/-- Each layout takes a chain at least one rank further down. -/
theorem length_le (order : ranks.Order engine) {template : Instance} {context : Context}
    {session : Session Body} {legs : List Leg} {rendered : Rendered}
    (course : engine.Course bound template context session legs rendered)
    (keeps : Turn.KeepsTo ranks (ranks.Below limit) ⟨template, context, session⟩) :
    legs.length ≤ limit + 1 := by
  induction course generalizing limit with
  | failed | ended | astray => simp
  | linked first succeeds names looks rest ih =>
      obtain ⟨name, lower, ⟨_, ranked, less⟩, ranked', below⟩ :=
        keeps.follows order (ranks.closed_below limit) (first.follows succeeds names looks)
      cases ranked.symm.trans ranked'
      have shorter := ih below
      simp only [List.length_cons]
      omega

end KeepsTo
end Turn

/-! ## Renders -/

namespace Engine

/-- A render comes to an end, and no more than `count` templates of its chain have a turn. -/
structure EndsWithin (engine : Engine) (start : Turn) (model : Model) (count : Nat) : Prop where
  finishes : ∃ rendered, ∀ bound, count ≤ bound →
    engine.render bound start.template model start.context start.session = some rendered
  legs : ∀ bound legs acts rendered,
    engine.Executes bound start.template model start.context start.session legs acts rendered →
    legs.length ≤ count

/-- Whatever is included on the way of a render is one of these names, and its chain ends as well, with
no more templates than its rank allows. -/
def IncludesEnd (engine : Engine) (ranks : Ranks) (names : String → Prop) (start : Turn)
    (model : Model) : Prop :=
  ∀ turn given, engine.Executed start model turn given → ∀ name passed inner,
    engine.Enters turn name passed inner →
    names name ∧ ∃ limit, ranks.rank name = some limit ∧ engine.EndsWithin inner passed (limit + 1)

end Engine

namespace Turn.KeepsTo

variable {start : Turn} {limit : Nat}

theorem endsWithin (keeps : start.KeepsTo ranks (ranks.Below limit)) (order : ranks.Order engine)
    (model : Model) : engine.EndsWithin start model (limit + 1) where
  finishes := by
    have finishes := Ranks.finishes_of_lt order (Nat.lt_succ_self limit)
    obtain ⟨rendered, renders, _⟩ :=
      finishes.runInstance keeps.template model start.context keeps.session
    exact ⟨rendered, fun bound le => Engine.runInstance_within (engine.chain_within le) renders⟩
  legs bound legs acts rendered executes := by
    cases executes with
    | refused => exact Nat.zero_le _
    | ran binds course =>
        obtain ⟨takes, rfl⟩ := Instance.bindModel_eq_ok_iff.mp binds
        exact length_le order course (keeps.bind (Turn.bind_eq_ok_iff.mpr ⟨takes, rfl⟩))

theorem includesEnd (keeps : start.KeepsTo ranks names) (order : ranks.Order engine)
    (closed : ranks.Closed names) (model : Model) : engine.IncludesEnd ranks names start model := by
  intro turn given executed name passed inner enters
  obtain ⟨named, limit, ranked, below⟩ :=
    (keeps.executed order closed executed).enters order closed enters
  exact ⟨named, limit, ranked, below.endsWithin order passed⟩

/-- A template may name others of any ranks, so that no one bound suffices for all that its body may do;
but the body ends, and then the rank of the layout is known. -/
theorem exists_chain (keeps : start.KeepsTo ranks ranks.Ranked) (order : ranks.Order engine) :
    ∃ bound rendered, engine.chain bound start.template start.context start.session = some rendered ∧
      ranks.Suits rendered.session := by
  obtain ⟨bound, result, page, ran, kept⟩ :=
    keeps.template.body.run order start.template (Ranks.renders_of_ranked order fun _ => id)
      engine.ascends_runNamed (keeps.template.start start.context keeps.session)
  obtain ⟨limit, below⟩ : ∃ limit, ∀ layout ∈ page.layout, ranks.Below limit layout := by
    cases names : page.layout with
    | none => exact ⟨0, by simp⟩
    | some layout =>
        obtain ⟨lower, ranked⟩ := kept.layout layout names
        exact ⟨lower + 1, by simpa using ⟨lower, ranked, Nat.lt_succ_self lower⟩⟩
  have ran := Engine.runBody_within (engine.chain_within (Nat.le_max_left bound limit)) ran
  exact ⟨_, Ranks.finishes_of_runBody order (fun _ => Ranks.finishes_of_lt order) ran
    ⟨kept.session, fun layout names => (below layout names).mono (Nat.le_max_right bound limit)⟩⟩

end Turn.KeepsTo

namespace Engine

variable {session : Session Body}

theorem run_finishes (order : ranks.Order engine) (suits : ranks.Suits session) {name : String}
    {limit : Nat} (ranked : ranks.rank name = some limit) (model : Model) (bag : ViewBag) :
    ∃ result after, ranks.Suits after ∧ ∀ bound, limit < bound →
      engine.run bound name model bag session = some (result, after) := by
  have finishes := Ranks.finishes_of_lt order (Nat.lt_succ_self limit)
  obtain ⟨result, after, runs, left⟩ := finishes.runNamed order ranked model bag suits
  exact ⟨result, after, left, fun bound less => engine.ascends_runNamed less _ _ _ _ _ runs⟩

theorem keepsTo_of_compile (suits : ranks.Suits session) {input : CompileInput}
    (permits : ranks.Permits engine input) {template : Instance} {compiled : Session Body}
    (compiles : engine.compile input session = some (.ok template, compiled))
    (keeps : template.body.KeepsTo ranks names) (context : Context) :
    Turn.KeepsTo ranks names ⟨template, context, compiled⟩ := by
  obtain ⟨_, _, compiles', left, made⟩ := suits.compile permits
  cases compiles.symm.trans compiles'
  obtain ⟨none, _⟩ := made template rfl
  exact ⟨⟨keeps, by simp [none]⟩, left⟩

theorem parse_finishes (order : ranks.Order engine) (suits : ranks.Suits session) {content : String}
    {model : Model} (permits : ranks.Permits engine { content, modelType := model.modelType })
    (keeps : ∀ template compiled,
      engine.compile { content, modelType := model.modelType } session =
        some (.ok template, compiled) → template.body.KeepsTo ranks ranks.Ranked)
    (bag : ViewBag) :
    ∃ result after, ranks.Suits after ∧
      engine.Gives (.parse content model bag) session (result, after) := by
  obtain ⟨made, compiled, compiles, left, _⟩ := suits.compile permits
  cases made with
  | error error =>
      exact ⟨.error error, compiled, left, 0, by simp only [perform, parse, compiles]⟩
  | ok template =>
      have start := keepsTo_of_compile suits permits compiles (keeps template compiled compiles)
        (.withViewBag bag)
      cases binds : template.bindModel model with
      | error error =>
          exact ⟨.error (.usage error), compiled, left, 0,
            by simp only [perform, parse, compiles, render, runInstance, binds, Option.map_some]⟩
      | ok root =>
          obtain ⟨takes, rfl⟩ := Instance.bindModel_eq_ok_iff.mp binds
          obtain ⟨bound, rendered, goes, left⟩ :=
            (start.bind (Turn.bind_eq_ok_iff.mpr ⟨takes, rfl⟩)).exists_chain order
          exact ⟨rendered.result, rendered.session, left, bound, by
            simp only [perform, parse, compiles, render, runInstance, binds, goes, Option.map_some]
            rfl⟩

/-- If whatever is found under a name names templates of lower ranks only, then every run by name comes
to an end, and no chain on the way is longer than the rank of its first template allows.  A text that
names ranked templates is parsed and rendered to an end as well. -/
theorem ranked_renders_finish (order : ranks.Order engine) :
    (∀ inputs session, engine.Filled inputs session →
      (∀ input ∈ inputs, ranks.Permits engine input) → ranks.Suits session) ∧
    ∀ session, ranks.Suits session → ∀ (model : Model) (bag : ViewBag),
      (∀ name limit, ranks.rank name = some limit →
        (∃ result after, ranks.Suits after ∧ ∀ bound, limit < bound →
          engine.run bound name model bag session = some (result, after)) ∧
        ∀ template found, engine.findTemplate name session = some (.ok (some template), found) →
          engine.EndsWithin ⟨template, .withViewBag bag, found⟩ model (limit + 1) ∧
          engine.IncludesEnd ranks (ranks.Below limit) ⟨template, .withViewBag bag, found⟩ model) ∧
      ∀ content, ranks.Permits engine { content, modelType := model.modelType } →
        (∀ template compiled,
          engine.compile { content, modelType := model.modelType } session =
            some (.ok template, compiled) → template.body.KeepsTo ranks ranks.Ranked) →
        (∃ result after, ranks.Suits after ∧
          engine.Gives (.parse content model bag) session (result, after)) ∧
        ∀ template compiled,
          engine.compile { content, modelType := model.modelType } session =
            some (.ok template, compiled) →
          (∀ limit, template.body.KeepsTo ranks (ranks.Below limit) →
            engine.EndsWithin ⟨template, .withViewBag bag, compiled⟩ model (limit + 1)) ∧
          engine.IncludesEnd ranks ranks.Ranked ⟨template, .withViewBag bag, compiled⟩ model := by
  refine ⟨fun _ _ => Ranks.suits_of_filled, fun session suits model bag =>
    ⟨fun name limit ranked => ⟨run_finishes order suits ranked model bag, ?_⟩,
      fun content permits keeps => ⟨parse_finishes order suits permits keeps bag, ?_⟩⟩⟩
  · intro template found finds
    obtain ⟨_, _, finds', left, keeps⟩ := suits.findTemplate order name
    cases finds.symm.trans finds'
    have start : Turn.KeepsTo ranks (ranks.Below limit) ⟨template, .withViewBag bag, found⟩ :=
      ⟨keeps template limit rfl ranked, left⟩
    exact ⟨start.endsWithin order model, start.includesEnd order (ranks.closed_below limit) model⟩
  · intro template compiled compiles
    have start {names : String → Prop} (keeps : template.body.KeepsTo ranks names) :
        Turn.KeepsTo ranks names ⟨template, .withViewBag bag, compiled⟩ :=
      keepsTo_of_compile suits permits compiles keeps _
    exact ⟨fun limit keeps => (start keeps).endsWithin order model,
      (start (keeps template compiled compiles)).includesEnd order ranks.closed_ranked model⟩

theorem mem_of_outcome {bodies : List (String × Body)} {input : CompileInput} {artifact : Artifact Body}
    (comes : outcome (.ofBodies bodies) input = .ok artifact) :
    (input.content, artifact.loadable) ∈ bodies := by
  have selected : pipelineFor (.ofBodies bodies) input.fileName =
      .ok (StaticPipeline.pipeline { bodies }) := pipelineFor_of_only rfl rfl input.fileName
  simp only [outcome, selected] at comes
  exact StaticPipeline.mem_of_compileTemplate comes

theorem order_ofBodies {bodies : List (String × Body)}
    (fits : ∀ entry ∈ bodies, ranks.Fits entry.1 entry.2)
    (named : ∀ input, ranks.admits input → input.key = input.content) :
    ranks.Order (.ofBodies bodies) := by
  have permits (input : CompileInput) (same : input.key = input.content) :
      ranks.Permits (.ofBodies bodies) input := by
    intro artifact comes
    rw [same]
    exact fits _ (mem_of_outcome comes)
  refine ⟨fun name input resolves => permits input ?_,
    fun input admits => permits input (named input admits)⟩
  obtain ⟨source, resolved, rfl⟩ := Option.map_eq_some_iff.mp resolves
  have listed := Fields.mem_ofList (Fields.mem_of_get? resolved)
  obtain ⟨entry, _, same⟩ := List.mem_map.mp listed
  cases same
  rfl

/-- A page in a frame.  Both use a part, and the page compiles it as well. -/
def stacked : Engine :=
  .ofBodies
    [("page", .call (.setLayout "frame") fun _ =>
        .call (.compile { name := some "part", content := "part" }) fun _ =>
          .includeTemplate "part" .none .place),
      ("frame", .captureSection "side" (.includeTemplate "part" .none .place) fun _ =>
        .call .renderBody .place),
      ("part", .text "part"),
      ("sheet", .includeTemplate "page" .none .place)]

/-- The sheet is parsed and has no rank. -/
def stackedRanks : Ranks where
  rank name := [("page", 2), ("frame", 1), ("part", 0)].lookup name
  admits input := input = { name := some "part", content := "part" }

theorem place_keepsTo (result : Except TemplateError Producer) :
    (Body.place result).KeepsTo ranks names := by
  cases result with
  | ok producer => exact ⟨trivial, fun _ => trivial⟩
  | error error => trivial

theorem stacked_order : stackedRanks.Order stacked := by
  have part {limit : Nat} (less : 0 < limit) : stackedRanks.Below limit "part" := ⟨0, rfl, less⟩
  refine order_ofBodies ?_ fun input admits => by cases admits; rfl
  intro entry member limit ranked
  simp only [List.mem_cons, List.not_mem_nil, or_false] at member
  rcases member with rfl | rfl | rfl | rfl
  · obtain rfl : 2 = limit := Option.some.inj ranked
    exact ⟨⟨1, rfl, by decide⟩, fun _ => ⟨rfl, fun _ => ⟨part (by decide), place_keepsTo⟩⟩⟩
  · obtain rfl : 1 = limit := Option.some.inj ranked
    exact ⟨⟨part (by decide), place_keepsTo⟩, fun _ => ⟨trivial, place_keepsTo⟩⟩
  · exact ⟨trivial, fun _ => trivial⟩
  · cases ranked

def sheetInput : CompileInput :=
  { content := "sheet", modelType := Model.none.modelType }

theorem sheet_permitted : stackedRanks.Permits stacked sheetInput := by
  intro artifact _ limit ranked
  obtain ⟨front, back, split, _⟩ := List.lookup_eq_some_iff.mp ranked
  have listed : (sheetInput.key, limit) ∈ [("page", 2), ("frame", 1), ("part", 0)] := by simp [split]
  have plain : PlainName sheetInput.key := by
    simp only [List.mem_cons, Prod.mk.injEq, List.not_mem_nil, or_false] at listed
    rcases listed with ⟨same, _⟩ | ⟨same, _⟩ | ⟨same, _⟩ <;> (rw [same]; decide)
  exact (key_not_plain rfl plain).elim

theorem sheet_compiles : ∃ template compiled,
    stacked.compile sheetInput stacked.start = some (.ok template, compiled) ∧
      template.body = .includeTemplate "page" .none .place := by
  obtain ⟨result, compiled, _, compiles, comes, _⟩ :=
    (start_sound stacked [sheetInput]).compile (by simp [CompileInput.CollisionFree])
      (.unnamed (List.mem_singleton_self sheetInput) rfl)
  cases result with
  | error error =>
      have succeeds : (stacked.made sheetInput).isOk = true := by decide +kernel
      rw [← comes] at succeeds
      cases succeeds
  | ok template =>
      obtain ⟨artifact, made, same⟩ := outcome_of_made comes.symm
      have registered := mem_of_outcome made
      simp only [sheetInput, List.mem_cons, Prod.mk.injEq, List.not_mem_nil, or_false] at registered
      have body : artifact.loadable = .includeTemplate "page" .none .place := by
        simpa using registered
      exact ⟨template, compiled, compiles, same.trans body⟩

/-- The page comes out with its part, in its frame, and so does the sheet that includes it. -/
theorem stacked_finishes :
    stackedRanks.Order stacked ∧ stackedRanks.Suits stacked.start ∧
    (∃ after, ∀ bound, 2 < bound →
      stacked.run bound "page" .none .empty stacked.start = some (.ok "part", after)) ∧
    (∃ template found,
      stacked.findTemplate "page" stacked.start = some (.ok (some template), found) ∧
      stacked.EndsWithin ⟨template, .withViewBag .empty, found⟩ .none 3) ∧
    ∃ result after, stacked.Gives (.parse "sheet" .none .empty) stacked.start (result, after) := by
  obtain ⟨filled, ends⟩ := ranked_renders_finish stacked_order
  have suits : stackedRanks.Suits stacked.start := filled [] stacked.start .start (by simp)
  obtain ⟨runs, parses⟩ := ends stacked.start suits .none .empty
  obtain ⟨⟨result, after, _, ran⟩, chains⟩ := runs "page" 2 rfl
  refine ⟨stacked_order, suits, ⟨after, fun bound less => ?_⟩, ?_, ?_⟩
  · have shown : (stacked.run 3 "page" .none .empty stacked.start).map Prod.fst =
        some (.ok "part") := by decide +kernel
    rw [ran 3 (by decide)] at shown
    cases shown
    exact ran bound less
  · have finds : ((stacked.findTemplate "page" stacked.start).any fun found =>
        found.1.toOption.join.isSome) = true := by decide +kernel
    obtain ⟨⟨result, found⟩, finds, isTemplate⟩ := (Option.any_eq_true _ _).mp finds
    obtain ⟨template, same⟩ := Option.isSome_iff_exists.mp isTemplate
    obtain rfl : result = .ok (some template) := by
      cases result <;> simp_all [Except.toOption]
    exact ⟨template, found, finds, (chains template found finds).1⟩
  · have page : stackedRanks.Ranked "page" := ⟨2, rfl⟩
    obtain ⟨template, compiled, compiles, body⟩ := sheet_compiles
    obtain ⟨⟨result, after, _, gives⟩, _⟩ := parses "sheet" sheet_permitted fun other _ compiles' => by
      cases compiles.symm.trans compiles'
      exact body ▸ ⟨page, place_keepsTo⟩
    exact ⟨result, after, gives⟩

end Engine
end Templating
