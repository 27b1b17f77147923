import Mathlib.Data.List.Induction
import Templating.Proofs.Pipeline.Outcome

/-!
What templates that were compiled ahead of time compile to.

The generator and the compiler look the same registrations up, the one for a text and the other for the
source that the generator gave.  As the source is the text itself, the compiler finds whatever the
generator found: a text compiles to what was registered last for it, or fails in its generator.
-/

namespace Templating.StaticPipeline

variable {L : Type u} {registrations : List (String × L)} {content : String} {body : L}

/-- What was registered for a text, and never replaced since. -/
def RegisteredLast (registrations : List (String × L)) (content : String) (body : L) : Prop :=
  ∃ before after, registrations = before ++ (content, body) :: after ∧
    ∀ entry ∈ after, entry.1 ≠ content

/-- What is said of an input whose text is not registered. -/
def unregistered (input : CompileInput) : Diagnostic where
  file := some (input.fileName.getD "<inline>")
  line := some 1
  column := some 1
  code := some "STC0001"
  message := "no precompiled body for template (model `" ++ input.modelType.name ++ "`)"

/-! ## Looking a text up -/

theorem find?_register (static : StaticPipeline L) (content other : String) (body : L) :
    (static.register content body).find? other =
      if other = content then some body else static.find? other := by
  have others := Fields.lookup_filter_ne content other static.bodies
  by_cases same : other = content
  · simp [find?, register, same]
  · have passed : (other == content) = false := beq_eq_false_iff_ne.mpr same
    rw [if_neg same] at others ⊢
    rw [find?, register, List.lookup_cons, passed]
    exact others

theorem find?_ofRegistrations (registrations : List (String × L)) (content : String) :
    (ofRegistrations registrations).find? content = registrations.reverse.lookup content := by
  induction registrations using List.reverseRecOn with
  | nil => rfl
  | append_singleton earlier last ih =>
      have registered : ofRegistrations (earlier ++ [last]) =
          (ofRegistrations earlier).register last.1 last.2 := by
        simp [ofRegistrations]
      rw [registered, find?_register, ih, List.reverse_concat, List.lookup_cons]
      by_cases same : content = last.1
      · simp [same]
      · simp [same, beq_eq_false_iff_ne.mpr same]

theorem find?_eq_some_iff :
    (ofRegistrations registrations).find? content = some body ↔
      RegisteredLast registrations content body := by
  rw [find?_ofRegistrations, List.lookup_eq_some_iff]
  constructor
  · intro given
    obtain ⟨later, earlier, split, others⟩ := given
    refine ⟨earlier.reverse, later.reverse, ?_, fun entry member same => ?_⟩
    · simpa using congrArg List.reverse split
    · exact bne_iff_ne.mp (others entry (List.mem_reverse.mp member)) same.symm
  · intro given
    obtain ⟨before, after, rfl, others⟩ := given
    refine ⟨after.reverse, before.reverse, by simp, fun entry member => bne_iff_ne.mpr ?_⟩
    exact (others entry (List.mem_reverse.mp member)).symm

theorem find?_eq_none_iff :
    (ofRegistrations registrations).find? content = none ↔
      ∀ body, (content, body) ∉ registrations := by
  rw [find?_ofRegistrations, List.lookup_eq_none_iff]
  constructor
  · intro others body member
    simpa using others (content, body) (List.mem_reverse.mpr member)
  · intro absent entry member
    refine bne_iff_ne.mpr fun same => ?_
    exact absent entry.2 (same ▸ List.mem_reverse.mp member)

/-! ## The two stages -/

section Stages

variable {static : StaticPipeline L} (label : Nat) {input : CompileInput} (options : PipelineOptions)

theorem compileTemplate_of_some (found : static.find? input.content = some body) :
    compileTemplate (static.pipeline label) input options =
      (.ok
        { key := input.key
          fingerprint := input.fingerprint
          modelType := input.modelType
          fileName := input.fileName
          generatedSource := input.content
          loadable := body },
        [.generateCalled label (Pipeline.generateRequest input options),
          .compileCalled label ⟨input.content, options.references, options.debug⟩]) := by
  simp [compileTemplate, Pipeline.callGenerate, Pipeline.callCompile, pipeline, generate, compile, found,
    GenerateOutput.succeeded, CompileOutput.succeeded, Pipeline.generateRequest]

theorem compileTemplate_of_none (absent : static.find? input.content = none) :
    compileTemplate (static.pipeline label) input options =
      (.error (.generation [unregistered input]),
        [.generateCalled label (Pipeline.generateRequest input options)]) := by
  simp [compileTemplate, Pipeline.callGenerate, pipeline, generate, absent, GenerateOutput.failed,
    Pipeline.generateRequest, unregistered, Diagnostic.new, Diagnostic.withFile, Diagnostic.withPlace,
    Diagnostic.withCode, unknownTemplate]

end Stages

/-- An input compiles exactly if its text was registered, and then to what was registered last for it.
Any other input fails in the generator, and the compiler fails for no source that it is given. -/
theorem compiles_to_last_registered (registrations : List (String × L)) (label : Nat)
    (input : CompileInput) (options : PipelineOptions) :
    ((∃ artifact, (compileTemplate ((ofRegistrations registrations).pipeline label) input options).1 =
        .ok artifact) ↔ ∃ body, (input.content, body) ∈ registrations) ∧
    (∀ artifact, (compileTemplate ((ofRegistrations registrations).pipeline label) input options).1 =
        .ok artifact ↔
      ∃ body, RegisteredLast registrations input.content body ∧
        artifact =
          { key := input.key
            fingerprint := input.fingerprint
            modelType := input.modelType
            fileName := input.fileName
            generatedSource := input.content
            loadable := body }) ∧
    (∀ error, (compileTemplate ((ofRegistrations registrations).pipeline label) input options).1 =
        .error error ↔
      (∀ body, (input.content, body) ∉ registrations) ∧ error = .generation [unregistered input]) ∧
    (∀ diagnostics source,
      (compileTemplate ((ofRegistrations registrations).pipeline label) input options).1 ≠
        .error (.compilation diagnostics source)) ∧
    ∀ request ∈ Journal.compiled label
        (compileTemplate ((ofRegistrations registrations).pipeline label) input options).2,
      ((ofRegistrations registrations).compile request).success = true := by
  cases found : (ofRegistrations registrations).find? input.content with
  | some body =>
      have last := find?_eq_some_iff.mp found
      have member : (input.content, body) ∈ registrations := by
        obtain ⟨before, after, rfl, _⟩ := last
        simp
      have unique : ∀ other, RegisteredLast registrations input.content other ↔ other = body := by
        intro other
        rw [← find?_eq_some_iff, found, Option.some.injEq]
        exact eq_comm
      rw [compileTemplate_of_some label options found]
      refine ⟨⟨fun _ => ⟨body, member⟩, fun _ => ⟨_, rfl⟩⟩, fun artifact => ?artifact,
        fun error => ?failed, by simp, fun request asked => ?compiled⟩
      case artifact =>
        simp only [unique, exists_eq_left, Except.ok.injEq]
        exact eq_comm
      case failed =>
        constructor
        · exact fun failed => nomatch failed
        · exact fun absent => absurd member (absent.1 body)
      case compiled =>
        obtain rfl : request = ⟨input.content, options.references, options.debug⟩ := by
          simpa [Journal.compiled] using asked
        simp [compile, found, CompileOutput.succeeded]
  | none =>
      have absent := find?_eq_none_iff.mp found
      have never : ∀ body, ¬ RegisteredLast registrations input.content body := by
        intro body last
        simp [find?_eq_some_iff.mpr last] at found
      rw [compileTemplate_of_none label options found]
      refine ⟨by simp [absent], fun artifact => by simp [never], fun error => ?failed, by simp,
        by simp [Journal.compiled]⟩
      case failed =>
        rw [Except.error.injEq, eq_comm]
        exact (and_iff_right absent).symm

/-- A page that is registered twice, with a part in between. -/
theorem page_compiles_to_last_registered :
    let registrations : List (String × Nat) := [("page", 1), ("part", 2), ("page", 3)]
    let pipeline := (ofRegistrations registrations).pipeline
    (∃ artifact, (compileTemplate pipeline { content := "page" } {}).1 = .ok artifact ∧
      artifact.loadable = 3) ∧
    (compileTemplate pipeline { content := "Page", fileName := some "page.tpl" } {}).1 =
      .error (.generation
        [{ file := some "page.tpl", line := some 1, column := some 1, code := some "STC0001",
           message := "no precompiled body for template (model `dynamic`)" }]) := by
  intro registrations pipeline
  constructor
  · obtain ⟨_, made, _⟩ := compiles_to_last_registered registrations 0 { content := "page" } {}
    exact ⟨_, (made _).mpr ⟨3, ⟨[("page", 1), ("part", 2)], [], rfl, by simp⟩, rfl⟩, rfl⟩
  · obtain ⟨_, _, failed, _⟩ := compiles_to_last_registered registrations 0
      { content := "Page", fileName := some "page.tpl" } {}
    exact (failed _).mpr ⟨by simp [registrations], by decide⟩

end Templating.StaticPipeline
