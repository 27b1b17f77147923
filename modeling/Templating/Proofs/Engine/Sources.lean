import Templating.Engine.Basic
import Templating.Proofs.Cache.Calls
import Templating.Proofs.Pipeline.Outcome

/-!
What an engine makes of an input or a name, with its cache or without.

`Engine.outcome` and `Engine.found` are told by the pipelines and the resolver alone.  A session is
sound if each entry of its cache is the outcome of an input that the entry can come from: one
without a name that was asked for, or the resolver's text for the name that the entry is listed
under.  In sound sessions compiling and looking up come to what they come to without a cache, and
leave sound sessions.
-/

namespace Templating

namespace Ledger

variable {L : Type u} {ledger : Ledger L} {key : String}

theorem mem_of_find? {settled : Settled L} (found : ledger.find? key = some settled) :
    (key, settled) ∈ ledger.entries := by
  obtain ⟨front, back, split, _⟩ := List.lookup_eq_some_iff.mp found
  simp [split]

theorem mem_touch {entry : String × Settled L} (member : entry ∈ (ledger.touch key).entries) :
    entry ∈ ledger.entries := by
  unfold touch at member
  split at member
  · exact member
  · next settled found =>
      rcases List.mem_append.mp member with old | moved
      · exact (List.mem_filter.mp old).1
      · rw [List.mem_singleton.mp moved]
        exact mem_of_find? found

theorem mem_trim {entry : String × Settled L} (member : entry ∈ ledger.trim.entries) :
    entry ∈ ledger.entries := by
  unfold trim at member
  split at member
  · exact member
  · exact member
  · exact List.mem_of_mem_drop member

theorem mem_put {settled : Settled L} {entry : String × Settled L}
    (member : entry ∈ (ledger.put key settled).entries) :
    entry ∈ ledger.entries ∨ entry = (key, settled) := by
  rcases List.mem_append.mp (mem_trim member) with old | new
  · exact .inl (List.mem_filter.mp old).1
  · exact .inr (List.mem_singleton.mp new)

theorem mem_settle {fingerprint : Fingerprint} {outcome : Except TemplateError (Artifact L)}
    {entry : String × Settled L} (member : entry ∈ (ledger.settle key fingerprint outcome).2.entries) :
    entry ∈ ledger.entries ∨
      (∃ artifact, entry = (key, .ready artifact) ∧ outcome = .ok artifact.content) ∨
      (∃ error, entry = (key, .failed fingerprint error) ∧ outcome = .error error) := by
  cases outcome with
  | ok artifact =>
      rcases mem_put member with old | new
      · exact .inl old
      · exact .inr (.inl ⟨_, new, rfl⟩)
  | error error =>
      simp only [settle] at member
      split at member
      · rcases mem_put member with old | new
        · exact .inl old
        · exact .inr (.inr ⟨error, new, rfl⟩)
      · exact .inl member

theorem settle_content (fingerprint : Fingerprint) (outcome : Except TemplateError (Artifact L)) :
    (ledger.settle key fingerprint outcome).1.map Shared.content = outcome := by
  cases outcome with
  | ok artifact => rfl
  | error error =>
      simp only [settle]
      split <;> rfl

end Ledger

namespace Engine

def outcome (engine : Engine) (input : CompileInput) : Except TemplateError (Artifact Body) :=
  match engine.pipelineFor input.fileName with
  | .error error => .error (.usage error)
  | .ok pipeline => (compileTemplate pipeline input engine.options).1

/-- The input that the resolver's text for a name makes. -/
def input? (engine : Engine) (name : String) : Option CompileInput :=
  (engine.resolver.bind fun resolver => resolver.resolve name).map fun source =>
    { name := some name
      content := source.content
      fileName := source.fileName
      modelType := source.modelType }

theorem name_of_input? {engine : Engine} {name : String} {input : CompileInput}
    (found : engine.input? name = some input) : input.name = some name := by
  simp only [input?, Option.map_eq_some_iff] at found
  obtain ⟨_, _, rfl⟩ := found
  rfl

/-- An engine with one pipeline and none by extension uses it for all files. -/
theorem pipelineFor_of_only {engine : Engine} {pipeline : Pipeline Body} (none : engine.pipelines = [])
    (only : engine.defaultPipeline = some pipeline) (fileName : Option String) :
    engine.pipelineFor fileName = .ok pipeline := by
  have unlisted (extension? : Option String) :
      (extension?.bind fun extension =>
        engine.pipelines.lookup (FileName.normalExtension extension)) = .none := by
    cases extension? <;> simp [none]
  cases fileName with
  | none => simp [pipelineFor, only]
  | some fileName =>
      simp only [pipelineFor, Option.bind_eq_bind, Option.bind_some, unlisted, only]
      rfl

theorem compiled_of_outcome {engine : Engine} {input : CompileInput} {artifact : Artifact Body}
    (comes : engine.outcome input = .ok artifact) :
    ∃ pipeline, engine.pipelineFor input.fileName = .ok pipeline ∧
      (compileTemplate pipeline input engine.options).1 = .ok artifact := by
  simp only [outcome] at comes
  split at comes
  · contradiction
  · next pipeline selected => exact ⟨pipeline, selected, comes⟩

theorem outcome_congr (engine : Engine) {first second : CompileInput} (key : first.key = second.key)
    (content : first.content = second.content) (fileName : first.fileName = second.fileName)
    (modelType : first.modelType = second.modelType) :
    engine.outcome first = engine.outcome second := by
  simp only [outcome, fileName]
  split
  · rfl
  · rw [compileTemplate_congr key content fileName modelType]

end Engine

/-- A name that no template without a name goes by. -/
def PlainName (name : String) : Prop :=
  ¬ "tpl_".toList <+: name.toList

instance (name : String) : Decidable (PlainName name) :=
  inferInstanceAs (Decidable (¬ "tpl_".toList <+: name.toList))

theorem key_not_plain {input : CompileInput} (unnamed : input.name = none) :
    ¬ PlainName input.key := by
  simp [PlainName, CompileInput.key, unnamed, Fingerprint.text, String.toList_append]

namespace Engine

/-- The inputs that entries of a cache come from: of those asked for, the ones without a name, and
the resolver's text for any name but one that looks like a fingerprint. -/
inductive Source (engine : Engine) (inputs : List CompileInput) : CompileInput → Prop where
  | unnamed (asked : input ∈ inputs) (unnamed : input.name = none) : Source engine inputs input
  | resolved (plain : PlainName name) (found : engine.input? name = some input) :
      Source engine inputs input

/-- An entry is what its input comes to. -/
def Backs (engine : Engine) (input : CompileInput) : Settled Body → Prop
  | .ready artifact => engine.outcome input = .ok artifact.content
  | .failed fingerprint error =>
      input.fingerprint = fingerprint ∧ engine.outcome input = .error error

/-- Each entry of the cache is backed by an input that it can come from. -/
structure Sound (engine : Engine) (inputs : List CompileInput) (session : Session Body)
    (ledger : Ledger Body) : Prop where
  represents : session.cache.Represents ledger
  backed : ∀ entry ∈ ledger.entries, ∃ input, engine.Source inputs input ∧
    input.key = entry.1 ∧ engine.Backs input entry.2

variable {engine : Engine} {inputs : List CompileInput} {session : Session Body}
  {ledger : Ledger Body} {input other : CompileInput} {name : String}

theorem Source.key_of_name (source : engine.Source inputs input) (named : input.name = some name) :
    input.key = name ∧ PlainName name ∧ engine.input? name = some input := by
  cases source with
  | unnamed _ unnamed => cases named.symm.trans unnamed
  | resolved plain found =>
      cases named.symm.trans (name_of_input? found)
      exact ⟨by simp [CompileInput.key, named], plain, found⟩

theorem Source.outcome_eq (collisionFree : CompileInput.CollisionFree inputs)
    (source : engine.Source inputs input) (source' : engine.Source inputs other)
    (key : input.key = other.key) (fingerprint : input.fingerprint = other.fingerprint) :
    engine.outcome input = engine.outcome other := by
  -- A plain key belongs to the resolver's one text for it; under any other key both inputs have no
  -- name, and the fingerprint tells what they are.
  cases named : input.name with
  | none =>
      cases named' : other.name with
      | none =>
          cases source with
          | resolved _ found => cases named.symm.trans (name_of_input? found)
          | unnamed asked =>
              cases source' with
              | resolved _ found => cases named'.symm.trans (name_of_input? found)
              | unnamed asked' =>
                  obtain ⟨content, fileName, modelType⟩ :=
                    collisionFree input asked other asked' fingerprint
                  exact engine.outcome_congr key content fileName modelType
      | some name =>
          obtain ⟨isName, plain, _⟩ := source'.key_of_name named'
          exact (key_not_plain named (key.trans isName ▸ plain)).elim
  | some name =>
      obtain ⟨isName, plain, found⟩ := source.key_of_name named
      cases named' : other.name with
      | none => exact (key_not_plain named' (key.symm.trans isName ▸ plain)).elim
      | some name' =>
          obtain ⟨isName', _, found'⟩ := source'.key_of_name named'
          cases isName.symm.trans (key.trans isName')
          cases found.symm.trans found'
          rfl

theorem fingerprint_of_outcome {artifact : Artifact Body}
    (comes : engine.outcome input = .ok artifact) :
    artifact.key = input.key ∧ artifact.fingerprint = input.fingerprint := by
  obtain ⟨_, _, compiles⟩ := compiled_of_outcome comes
  obtain ⟨key, fingerprint, _⟩ := compileTemplate_eq_ok compiles
  exact ⟨key, fingerprint⟩

theorem start_sound (engine : Engine) (inputs : List CompileInput) :
    engine.Sound inputs engine.start
      { capacity := engine.config.cacheCapacity, failurePolicy := engine.config.failurePolicy } :=
  ⟨Cache.create_represents _ _, by simp⟩

theorem Sound.answer (sound : engine.Sound inputs session ledger)
    (collisionFree : CompileInput.CollisionFree inputs) (source : engine.Source inputs input)
    {result : Except TemplateError (Shared (Artifact Body))}
    (answered : ledger.answer? input.key input.fingerprint = some result) :
    result.map Shared.content = engine.outcome input := by
  simp only [Ledger.answer?, Option.bind_eq_some_iff] at answered
  obtain ⟨settled, found, answer⟩ := answered
  obtain ⟨other, source', key, backs⟩ := sound.backed _ (Ledger.mem_of_find? found)
  cases settled with
  | ready artifact =>
      obtain ⟨same, answer⟩ := Option.ite_none_right_eq_some.mp answer
      cases answer
      have fingerprint := (fingerprint_of_outcome backs).2.symm.trans same
      exact backs.symm.trans (source'.outcome_eq collisionFree source key fingerprint)
  | failed failed error =>
      obtain ⟨⟨same, _⟩, answer⟩ := Option.ite_none_right_eq_some.mp answer
      cases answer
      exact backs.2.symm.trans (source'.outcome_eq collisionFree source key (backs.1.trans same))

/-- A call for an input is answered by the entry of its key or by its outcome, and lists nothing but
that outcome anew. -/
theorem compileArtifact_represents (engine : Engine) (represents : session.cache.Represents ledger)
    (input : CompileInput) :
    ∃ result after ledger', engine.compileArtifact input session = some (result, after) ∧
      after.cache.Represents ledger' ∧
      (ledger.answer? input.key input.fingerprint = some result ∨
        result.map Shared.content = engine.outcome input) ∧
      ∀ entry ∈ ledger'.entries,
        entry ∈ ledger.entries ∨ (entry.1 = input.key ∧ engine.Backs input entry.2) := by
  unfold Engine.compileArtifact
  cases selected : engine.pipelineFor input.fileName with
  | error error =>
      exact ⟨_, session, ledger, rfl, represents, .inr (by simp [outcome, selected, Except.map]),
        fun _ => .inl⟩
  | ok pipeline =>
      have comes : engine.outcome input = (compileTemplate pipeline input engine.options).1 := by
        simp [outcome, selected]
      obtain ⟨report, after, obtained, _, represents'⟩ :=
        Session.obtain_represents represents input.key input.fingerprint
          (compileTemplate pipeline input engine.options).1
          (fun session =>
            let (outcome, events) := compileTemplate pipeline input engine.options
            some (outcome, (), session.recordAll events))
          fun holding => ⟨(), _, rfl, by simp⟩
      rw [← comes] at obtained represents'
      refine ⟨(ledger.obtain input.key input.fingerprint (engine.outcome input)).1.1, after, _,
        by simp only [Session.getOrCompile, obtained, Option.map_some], represents', ?_⟩
      cases answered : ledger.answer? input.key input.fingerprint with
      | some result =>
          rw [Ledger.obtain_of_answered answered]
          exact ⟨.inl rfl, fun entry member => .inl (Ledger.mem_touch member)⟩
      | none =>
          rw [Ledger.obtain_of_unanswered answered]
          refine ⟨.inr (Ledger.settle_content _ _), fun entry member => ?_⟩
          rcases Ledger.mem_settle member with old | ⟨artifact, rfl, comes⟩ | ⟨error, rfl, comes⟩
          · exact .inl (Ledger.mem_touch old)
          · exact .inr ⟨rfl, comes⟩
          · exact .inr ⟨rfl, rfl, comes⟩

theorem Sound.compileArtifact (sound : engine.Sound inputs session ledger)
    (collisionFree : CompileInput.CollisionFree inputs) (source : engine.Source inputs input) :
    ∃ result after ledger', engine.compileArtifact input session = some (result, after) ∧
      result.map Shared.content = engine.outcome input ∧ engine.Sound inputs after ledger' := by
  obtain ⟨result, after, ledger', compiles, represents, answers, entries⟩ :=
    engine.compileArtifact_represents sound.represents input
  refine ⟨result, after, ledger', compiles, ?_, represents, fun entry member => ?_⟩
  · exact answers.elim (sound.answer collisionFree source) id
  · rcases entries entry member with old | ⟨key, backs⟩
    · exact sound.backed entry old
    · exact ⟨input, source, key.symm, backs⟩

/-! ## Instances -/

def made (engine : Engine) (input : CompileInput) : Except TemplateError Instance :=
  match engine.outcome input with
  | .error error => .error error
  | .ok artifact => engine.newInstance ⟨0, artifact⟩ .none

/-- An instance of the resolver's text for a name. -/
def found (engine : Engine) (name : String) : Except TemplateError (Option Instance) :=
  match engine.input? name with
  | none => .ok none
  | some input => (engine.made input).map some

end Engine

/-- An instance without the number that its artifact was published with. -/
def Instance.unnumbered (template : Instance) : Instance :=
  { template with artifact := ⟨0, template.artifact.content⟩ }

namespace Engine

theorem newInstance_unnumbered (engine : Engine) (artifact : Shared (Artifact Body)) (model : Model) :
    (engine.newInstance artifact model).map Instance.unnumbered =
      engine.newInstance ⟨0, artifact.content⟩ model := by
  simp only [newInstance, Instance.create]
  cases artifact.content.modelType.check model <;> rfl

variable {engine : Engine} {inputs : List CompileInput} {session : Session Body}
  {ledger : Ledger Body} {input other : CompileInput} {name : String}

theorem Sound.congr {other : Session Body} (sound : engine.Sound inputs session ledger)
    (same : other.cache = session.cache) : engine.Sound inputs other ledger :=
  ⟨same ▸ sound.represents, sound.backed⟩

theorem Sound.of_subset {other : Session Body} {ledger' : Ledger Body}
    (sound : engine.Sound inputs session ledger) (represents : other.cache.Represents ledger')
    (subset : ∀ entry ∈ ledger'.entries, entry ∈ ledger.entries) :
    engine.Sound inputs other ledger' :=
  ⟨represents, fun entry member => sound.backed entry (subset entry member)⟩

theorem Sound.compile (sound : engine.Sound inputs session ledger)
    (collisionFree : CompileInput.CollisionFree inputs) (source : engine.Source inputs input) :
    ∃ result after ledger', engine.compile input session = some (result, after) ∧
      result.map Instance.unnumbered = engine.made input ∧ engine.Sound inputs after ledger' := by
  obtain ⟨result, after, ledger', compiled, comes, sound'⟩ :=
    sound.compileArtifact collisionFree source
  simp only [Engine.compile, compiled, made, ← comes]
  cases result with
  | error error => exact ⟨_, after, ledger', rfl, rfl, sound'⟩
  | ok artifact =>
      exact ⟨_, after, ledger', rfl, newInstance_unnumbered engine artifact .none, sound'⟩

/-- What is cached under a name is what the resolver's text for the name comes to. -/
theorem Sound.artifact? (sound : engine.Sound inputs session ledger) (plain : PlainName name)
    {artifact : Shared (Artifact Body)} (cached : ledger.artifact? name = some artifact) :
    ∃ input, engine.input? name = some input ∧ engine.outcome input = .ok artifact.content := by
  obtain ⟨settled, found, ready⟩ := Option.bind_eq_some_iff.mp cached
  obtain ⟨input, source, key, backs⟩ := sound.backed _ (Ledger.mem_of_find? found)
  cases settled with
  | failed fingerprint error => cases ready
  | ready _ =>
      cases ready
      cases named : input.name with
      | none => exact (key_not_plain named (key ▸ plain)).elim
      | some other =>
          obtain ⟨isName, _, resolved⟩ := source.key_of_name named
          obtain rfl : other = name := isName.symm.trans key
          exact ⟨input, resolved, backs⟩

theorem resolve_input? (engine : Engine) (name : String) (session : Session Body) :
    ((engine.resolve name session).1.map fun source : TemplateSource =>
      ({ name := some name, content := source.content, fileName := source.fileName,
         modelType := source.modelType } : CompileInput)) = engine.input? name ∧
    (engine.resolve name session).2.cache = session.cache := by
  simp only [resolve, input?]
  cases engine.resolver <;> simp

/-- Looking a name up comes to what the resolver's text for it comes to, and leaves a sound
session. -/
theorem Sound.findTemplate (sound : engine.Sound inputs session ledger)
    (collisionFree : CompileInput.CollisionFree inputs) (plain : PlainName name) :
    ∃ result after ledger', engine.findTemplate name session = some (result, after) ∧
      result.map (Option.map Instance.unnumbered) = engine.found name ∧
      engine.Sound inputs after ledger' := by
  have recorded : (session.record (.templateSought name)).cache.Represents ledger :=
    sound.represents
  obtain ⟨looked, got, touched⟩ := Session.get_represents recorded name
  have sound' : engine.Sound inputs looked (ledger.touch name) :=
    sound.of_subset touched fun _ => Ledger.mem_touch
  simp only [Engine.findTemplate, got]
  cases cached : ledger.artifact? name with
  | some artifact =>
      obtain ⟨input, resolved, comes⟩ := sound.artifact? plain cached
      refine ⟨_, looked, _, rfl, ?_, sound'⟩
      have same := newInstance_unnumbered engine artifact .none
      simp only [found, resolved, made, comes, ← same]
      cases engine.newInstance artifact .none <;> rfl
  | none =>
      obtain ⟨resolved, kept⟩ := engine.resolve_input? name looked
      cases answer : engine.resolve name looked with
      | mk source asked =>
          rw [answer] at resolved kept
          cases source with
          | none =>
              refine ⟨.ok none, asked, _, by simp only [answer], ?_, sound'.congr kept⟩
              simp [found, ← resolved, Except.map]
          | some source =>
              have sound'' : engine.Sound inputs (asked.record (.templateResolved name))
                  (ledger.touch name) := sound'.congr kept
              obtain ⟨result, after, ledger', compiled, comes, final⟩ :=
                sound''.compile collisionFree (.resolved plain resolved.symm)
              refine ⟨result.map some, after, ledger', by simp only [answer, compiled], ?_, final⟩
              rw [found, ← resolved]
              simp only [Option.map_some, ← comes]
              cases result <;> rfl

end Engine
end Templating
