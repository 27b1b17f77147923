import Templating.Proofs.Engine.Link

/-!
What every use of a session keeps.

An engine uses a session in three ways: it records events, it asks for the artifact of an input, and it
gets what is cached under a key.  What these three keep is kept by look-ups and by whatever is rendered.
-/

namespace Templating

/-- What is kept by all that an engine does with its session. -/
structure Engine.Keeps (engine : Engine) (Good : Session Body → Prop) : Prop where
  record : ∀ {session : Session Body} (event : Event), Good session → Good (session.record event)
  artifact : ∀ {session after : Session Body} {input : CompileInput}
    {result : Except TemplateError (Shared (Artifact Body))}, Good session →
    engine.compileArtifact input session = some (result, after) → Good after
  get : ∀ {session after : Session Body} {key : String} {found : Option (Shared (Artifact Body))},
    Good session → session.get key = some (found, after) → Good after

def Includer.Keeps (includer : Includer) (Good : Session Body → Prop) : Prop :=
  ∀ name model bag session result after, Good session →
    includer name model bag session = some (result, after) → Good after

def Chain.Keeps (chain : Chain) (Good : Session Body → Prop) : Prop :=
  ∀ template context session rendered, Good session →
    chain template context session = some rendered → Good rendered.session

variable {engine : Engine} {Good : Session Body → Prop} {session after : Session Body} {name : String}

namespace Engine.Keeps

theorem compile (keeps : engine.Keeps Good) (good : Good session) {input : CompileInput}
    {result : Except TemplateError Instance}
    (compiles : engine.compile input session = some (result, after)) : Good after := by
  unfold Engine.compile at compiles
  split at compiles
  · contradiction
  · next error compiled ran =>
      cases compiles
      exact keeps.artifact good ran
  · next shared compiled ran =>
      cases compiles
      exact keeps.artifact good ran

theorem resolve (keeps : engine.Keeps Good) (good : Good session) (name : String) :
    Good (engine.resolve name session).2 := by
  unfold Engine.resolve
  split
  · exact good
  · exact keeps.record _ good

theorem findTemplate (keeps : engine.Keeps Good) (good : Good (session.record (.templateSought name)))
    {result : Except TemplateError (Option Instance)}
    (finds : engine.findTemplate name session = some (result, after)) : Good after := by
  simp only [Engine.findTemplate] at finds
  split at finds
  · contradiction
  · next artifact looked got =>
      cases finds
      exact keeps.get good got
  · next looked got =>
      have asked := keeps.resolve (keeps.get good got) name
      split at finds
      · next resolved resolves =>
          cases finds
          rw [resolves] at asked
          exact asked
      · next source resolved resolves =>
          rw [resolves] at asked
          split at finds
          · contradiction
          · next compiled final ran =>
              cases finds
              exact keeps.compile (keeps.record _ asked) ran

theorem contains (keeps : engine.Keeps Good) (good : Good session) {key : String} {known : Bool}
    (looks : session.contains key = some (known, after)) : Good after := by
  obtain ⟨_, got, same⟩ := Option.map_eq_some_iff.mp looks
  cases same
  exact keeps.get good got

theorem hasTemplate (keeps : engine.Keeps Good) (good : Good session) {known : Bool}
    (asks : engine.hasTemplate name session = some (known, after)) : Good after := by
  simp only [Engine.hasTemplate] at asks
  split at asks
  · contradiction
  · next looked looks =>
      cases asks
      exact keeps.contains good looks
  · next looked looks =>
      split at asks
      · cases asks
        exact keeps.contains good looks
      · cases asks
        exact keeps.resolve (keeps.contains good looks) name

theorem layoutOf (keeps : engine.Keeps Good) (good : Good (session.record (.templateSought name)))
    {template : Instance} {result : Except TemplateError Instance}
    (looks : engine.layoutOf template name session = some (result, after)) : Good after := by
  unfold Engine.layoutOf at looks
  split at looks
  · contradiction
  · next finds => cases looks; exact keeps.findTemplate good finds
  · next finds => cases looks; exact keeps.findTemplate good finds
  · next finds => cases looks; exact keeps.findTemplate good finds

/-! ## Bodies -/

theorem defineSection (keeps : engine.Keeps Good) {page : Page} (good : Good page.session)
    (name : String) (producer : Producer) : Good (page.defineSection name producer).2.session := by
  unfold Page.defineSection
  split
  · exact good
  · exact keeps.record _ good

theorem answer (keeps : engine.Keeps Good) {template : Instance} {page next : Page}
    (good : Good page.session) {callback : Callback} {reply : callback.Reply}
    (answers : page.answer engine template callback = some (reply, next)) : Good next.session := by
  cases callback with
  | compile input =>
      simp only [Page.answer] at answers
      split at answers
      · contradiction
      · next compiled final ran =>
          cases answers
          exact keeps.compile good ran
  | renderBody =>
      simp only [Page.answer, Page.renderBody] at answers
      split at answers <;> (cases answers; exact good)
  | defineSection name producer =>
      have same : (page.defineSection name producer).2 = next :=
        congrArg Prod.snd (Option.some.inj answers)
      rw [← same]
      exact keeps.defineSection good name producer
  | note text =>
      cases answers
      exact keeps.record _ good
  | _ =>
      cases answers
      exact good

theorem body (keeps : engine.Keeps Good) {template : Instance} {includer : Includer}
    (includes : includer.Keeps Good) (body : Body) {page final : Page} (good : Good page.session)
    {result : Except TemplateError Unit}
    (runs : body.run engine template includer page = some (result, final)) : Good final.session := by
  induction body generalizing page final result with
  | done =>
      cases runs
      exact good
  | call callback next ih =>
      simp only [Body.run] at runs
      split at runs
      · contradiction
      · next reply answered answers => exact ih reply (keeps.answer good answers) runs
  | captureSection name inner next ihInner ih =>
      simp only [Body.run] at runs
      split at runs
      · exact ih _ good runs
      · split at runs
        · contradiction
        · next error inside ran =>
            have left : Good inside.session := by
              refine ihInner ?_ ran
              exact good
            refine ih _ ?_ runs
            exact left
        · next inside ran =>
            have left : Good inside.session := by
              refine ihInner ?_ ran
              exact good
            refine ih _ (keeps.defineSection ?_ _ _) runs
            exact left
  | includeTemplate name model next ih =>
      simp only [Body.run] at runs
      split at runs
      · contradiction
      · next included session ran => exact ih _ (includes _ _ _ _ _ _ good ran) runs

/-! ## Renders -/

theorem runInstance {chain : Chain} (chains : chain.Keeps Good) (good : Good session)
    {template : Instance} {model : Model} {context : Context} {rendered : Rendered}
    (runs : Engine.runInstance chain template model context session = some rendered) :
    Good rendered.session := by
  unfold Engine.runInstance at runs
  split at runs
  · cases runs
    exact good
  · next bound binds =>
      obtain ⟨inner, ran, rfl⟩ := Option.map_eq_some_iff.mp runs
      show Good inner.session
      exact chains _ _ _ _ good ran

theorem runNamed (keeps : engine.Keeps Good) {chain : Chain} (chains : chain.Keeps Good)
    (good : Good (session.record (.templateSought name))) {model : Model} {bag : ViewBag}
    {result : Except TemplateError String}
    (runs : engine.runNamed chain name model bag session = some (result, after)) : Good after := by
  unfold Engine.runNamed at runs
  split at runs
  · contradiction
  · next finds =>
      cases runs
      exact keeps.findTemplate good finds
  · next finds =>
      cases runs
      exact keeps.findTemplate good finds
  · next template found finds =>
      obtain ⟨rendered, ran, same⟩ := Option.map_eq_some_iff.mp runs
      cases same
      exact runInstance chains (keeps.findTemplate good finds) ran

theorem includer (keeps : engine.Keeps Good) {chain : Chain} (chains : chain.Keeps Good) :
    Includer.Keeps (engine.runNamed chain) Good :=
  fun _ _ _ _ _ _ good runs => keeps.runNamed chains (keeps.record _ good) runs

theorem chain (keeps : engine.Keeps Good) (bound : Nat) : Chain.Keeps (engine.chain bound) Good := by
  induction bound with
  | zero => exact fun _ _ _ _ _ runs => nomatch runs
  | succ bound ih =>
      have includes := keeps.includer ih
      intro template context session rendered good runs
      cases chain_succ_eq_some_iff.mp runs with
      | failed ran => exact keeps.body includes _ good ran
      | ended ran => exact keeps.body includes _ good ran
      | astray ran names looks =>
          exact keeps.layoutOf (keeps.record _ (keeps.record _ (keeps.body includes _ good ran))) looks
      | linked ran names looks goes =>
          have ended := keeps.body includes _ good ran
          exact ih _ _ _ _ (keeps.layoutOf (keeps.record _ (keeps.record _ ended)) looks) goes

end Engine.Keeps
end Templating
