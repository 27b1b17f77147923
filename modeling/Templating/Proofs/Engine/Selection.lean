import Mathlib.Data.List.Forall2
import Mathlib.Data.List.Induction
import Templating.Engine.Basic
import Templating.Pipeline.Static
import Templating.Proofs.Text.Case

/-!
The pipeline that an engine compiles a file with.

An engine is set up by settings in some order.  Of the pipelines that are set for spellings of one
extension only the last is kept, and a file finds it by its own spelling of the extension.
-/

namespace Templating

inductive Setting where
  | useConfig (config : Config)
  | useResolver (resolver : Resolver)
  | usePipeline (pipeline : Pipeline Body)
  | usePipelineFor (extension : String) (pipeline : Pipeline Body)

namespace Setting

def apply (engine : Engine) : Setting → Engine
  | .useConfig config => engine.withConfig config
  | .useResolver resolver => engine.withResolver resolver
  | .usePipeline pipeline => engine.withPipeline pipeline
  | .usePipelineFor extension pipeline => engine.withPipelineFor extension pipeline

def default? : Setting → Option (Pipeline Body)
  | .usePipeline pipeline => some pipeline
  | _ => none

/-- The pipeline that is set for a spelling of the extension. -/
def forExtension? (extension : String) : Setting → Option (Pipeline Body)
  | .usePipelineFor spelled pipeline =>
      if FileName.normalExtension spelled = FileName.normalExtension extension then some pipeline
      else none
  | _ => none

/-- The same setting, where an extension may be spelled with more leading dots and in other cases. -/
inductive Respells : Setting → Setting → Prop where
  | refl (setting : Setting) : Respells setting setting
  | extension (respells : FileName.Respells spelled extension) :
      Respells (.usePipelineFor spelled pipeline) (.usePipelineFor extension pipeline)

/-- What the last of the settings that set something has set. -/
def SetLast (sets : Setting → Option α) (settings : List Setting) (value : α) : Prop :=
  ∃ before setting after, settings = before ++ setting :: after ∧ sets setting = some value ∧
    ∀ later ∈ after, sets later = none

/-- The pipeline for a file: that set last for its extension, or else the default one set last. -/
inductive Chooses (settings : List Setting) (fileName : Option String) :
    Except UsageError (Pipeline Body) → Prop where
  | byExtension (named : fileName.bind FileName.extension? = some extension)
      (last : SetLast (forExtension? extension) settings pipeline) : Chooses settings fileName (.ok pipeline)
  | byDefault (unset : ∀ extension, fileName.bind FileName.extension? = some extension →
        ∀ setting ∈ settings, setting.forExtension? extension = none)
      (last : SetLast default? settings pipeline) : Chooses settings fileName (.ok pipeline)
  | missing (unset : ∀ extension, fileName.bind FileName.extension? = some extension →
        ∀ setting ∈ settings, setting.forExtension? extension = none)
      (none : ∀ setting ∈ settings, setting.default? = none) :
      Chooses settings fileName (.error (.providerNotFound (fileName.getD "<inline>")))

/-! ## What is set last -/

theorem setLast_iff {sets : Setting → Option α} {settings : List Setting} {value : α} :
    SetLast sets settings value ↔ settings.reverse.findSome? sets = some value := by
  rw [List.findSome?_eq_some_iff]
  constructor
  · intro given
    obtain ⟨before, setting, after, rfl, sets, later⟩ := given
    exact ⟨after.reverse, setting, before.reverse, by simp, sets, by simpa using later⟩
  · intro given
    obtain ⟨after, setting, before, split, sets, later⟩ := given
    refine ⟨before.reverse, setting, after.reverse, ?_, sets, by simpa using later⟩
    simpa using congrArg List.reverse split

theorem unset_iff {sets : Setting → Option α} {settings : List Setting} :
    (∀ setting ∈ settings, sets setting = none) ↔ settings.reverse.findSome? sets = none := by
  simp

theorem findSome?_congr {sets : Setting → Option α} {settings settings' : List Setting}
    (same : List.Forall₂ (fun setting setting' => sets setting = sets setting') settings settings') :
    settings.reverse.findSome? sets = settings'.reverse.findSome? sets := by
  have mapped : settings.map sets = settings'.map sets := by
    induction same with
    | nil => rfl
    | cons first _ ih => rw [List.map_cons, List.map_cons, first, ih]
  have through (settings : List Setting) :
      settings.reverse.findSome? sets = (settings.map sets).reverse.findSome? id := by
    rw [← List.map_reverse, List.findSome?_map]
    rfl
  rw [through, through, mapped]

theorem Respells.forExtension? {setting setting' : Setting} (respells : Respells setting setting')
    (extension : String) : setting.forExtension? extension = setting'.forExtension? extension := by
  cases respells with
  | refl => rfl
  | extension respells => simp only [Setting.forExtension?, respells.normalExtension]

theorem Respells.default? {setting setting' : Setting} (respells : Respells setting setting') :
    setting.default? = setting'.default? := by
  cases respells <;> rfl

theorem forExtension?_congr {extension extension' : String}
    (same : FileName.normalExtension extension = FileName.normalExtension extension') :
    Setting.forExtension? extension = Setting.forExtension? extension' := by
  funext setting
  cases setting <;> simp only [Setting.forExtension?, same]

end Setting

/-! ## Engines that are set up -/

namespace Engine

open Setting (SetLast Chooses Respells)

def ofSettings (settings : List Setting) : Engine :=
  settings.foldl Setting.apply {}

theorem ofSettings_concat (settings : List Setting) (last : Setting) :
    ofSettings (settings ++ [last]) = last.apply (ofSettings settings) := by
  simp [ofSettings]

theorem lookup_withPipelineFor (engine : Engine) (extension normal : String) (pipeline : Pipeline Body) :
    (engine.withPipelineFor extension pipeline).pipelines.lookup normal =
      if normal = FileName.normalExtension extension then some pipeline
      else engine.pipelines.lookup normal := by
  have others := Fields.lookup_filter_ne (FileName.normalExtension extension) normal engine.pipelines
  simp only [withPipelineFor, List.lookup_append, others]
  by_cases same : normal = FileName.normalExtension extension
  · simp [same]
  · have passed : (normal == FileName.normalExtension extension) = false := beq_eq_false_iff_ne.mpr same
    simp [same, List.lookup_cons, passed]

theorem lookup_ofSettings (settings : List Setting) (extension : String) :
    (ofSettings settings).pipelines.lookup (FileName.normalExtension extension) =
      settings.reverse.findSome? (Setting.forExtension? extension) := by
  induction settings using List.reverseRecOn with
  | nil => rfl
  | append_singleton earlier last ih =>
      rw [ofSettings_concat, List.reverse_concat, List.findSome?_cons, ← ih]
      cases last with
      | usePipelineFor spelled pipeline =>
          simp only [Setting.apply, lookup_withPipelineFor, Setting.forExtension?]
          by_cases same : FileName.normalExtension spelled = FileName.normalExtension extension
          · simp [same]
          · simp [same, Ne.symm same]
      | _ => rfl

theorem defaultPipeline_ofSettings (settings : List Setting) :
    (ofSettings settings).defaultPipeline = settings.reverse.findSome? Setting.default? := by
  induction settings using List.reverseRecOn with
  | nil => rfl
  | append_singleton earlier last ih =>
      rw [ofSettings_concat, List.reverse_concat, List.findSome?_cons, ← ih]
      cases last <;> rfl

/-- The pipeline that the look-ups for a file come to. -/
def chosen? (settings : List Setting) (fileName : Option String) : Option (Pipeline Body) :=
  ((fileName.bind FileName.extension?).bind fun extension =>
    settings.reverse.findSome? (Setting.forExtension? extension)).or
      (settings.reverse.findSome? Setting.default?)

theorem pipelineFor_ofSettings (settings : List Setting) (fileName : Option String) :
    (ofSettings settings).pipelineFor fileName =
      match chosen? settings fileName with
      | some pipeline => .ok pipeline
      | none => .error (.providerNotFound (fileName.getD "<inline>")) := by
  have byExtension : (do
      let extension ← FileName.extension? (← fileName)
      (ofSettings settings).pipelines.lookup (FileName.normalExtension extension)) =
      (fileName.bind FileName.extension?).bind fun extension =>
        settings.reverse.findSome? (Setting.forExtension? extension) := by
    simp only [lookup_ofSettings, Option.bind_eq_bind, Option.bind_assoc]
  simp only [pipelineFor, byExtension, defaultPipeline_ofSettings]
  rfl

theorem chosen?_of_unset {settings : List Setting} {fileName : Option String}
    (unset : ∀ extension, fileName.bind FileName.extension? = some extension →
      ∀ setting ∈ settings, setting.forExtension? extension = none) :
    chosen? settings fileName = settings.reverse.findSome? Setting.default? := by
  unfold chosen?
  cases named : fileName.bind FileName.extension? with
  | none => rfl
  | some extension => rw [Option.bind_some, Setting.unset_iff.mp (unset extension named), Option.none_or]

theorem chooses_of_unset {settings : List Setting} {fileName : Option String}
    (unset : ∀ extension, fileName.bind FileName.extension? = some extension →
      ∀ setting ∈ settings, setting.forExtension? extension = none) :
    Chooses settings fileName ((ofSettings settings).pipelineFor fileName) := by
  rw [pipelineFor_ofSettings, chosen?_of_unset unset]
  cases last : settings.reverse.findSome? Setting.default? with
  | some pipeline => exact .byDefault unset (Setting.setLast_iff.mpr last)
  | none => exact .missing unset (Setting.unset_iff.mpr last)

theorem chooses_pipelineFor (settings : List Setting) (fileName : Option String) :
    Chooses settings fileName ((ofSettings settings).pipelineFor fileName) := by
  cases named : fileName.bind FileName.extension? with
  | none => exact chooses_of_unset (by simp [named])
  | some extension =>
      cases found : settings.reverse.findSome? (Setting.forExtension? extension) with
      | some pipeline =>
          have chosen : chosen? settings fileName = some pipeline := by simp [chosen?, named, found]
          rw [pipelineFor_ofSettings, chosen]
          exact .byExtension named (Setting.setLast_iff.mpr found)
      | none =>
          refine chooses_of_unset fun other same => ?_
          cases named.symm.trans same
          exact Setting.unset_iff.mpr found

theorem pipelineFor_eq_iff {settings : List Setting} {fileName : Option String}
    {selected : Except UsageError (Pipeline Body)} :
    (ofSettings settings).pipelineFor fileName = selected ↔ Chooses settings fileName selected := by
  constructor
  · rintro rfl
    exact chooses_pipelineFor settings fileName
  · intro chooses
    rw [pipelineFor_ofSettings]
    cases chooses with
    | byExtension named last => simp [chosen?, named, Setting.setLast_iff.mp last]
    | byDefault unset last => rw [chosen?_of_unset unset, Setting.setLast_iff.mp last]
    | missing unset none => rw [chosen?_of_unset unset, Setting.unset_iff.mp none]

theorem chooses_ok_iff {settings : List Setting} {fileName : Option String} {pipeline : Pipeline Body} :
    Chooses settings fileName (.ok pipeline) ↔ chosen? settings fileName = some pipeline := by
  rw [← pipelineFor_eq_iff, pipelineFor_ofSettings]
  cases chosen? settings fileName <;> simp

theorem chosen?_respelled {settings settings' : List Setting} {fileName fileName' : Option String}
    (respelled : List.Forall₂ Respells settings settings')
    (twins : Option.Rel Text.CaseTwins fileName fileName') :
    chosen? settings fileName = chosen? settings' fileName' := by
  have byDefault := Setting.findSome?_congr (respelled.imp fun _ _ respells => respells.default?)
  have byExtension (extension : String) :=
    Setting.findSome?_congr (respelled.imp fun _ _ respells => respells.forExtension? extension)
  have named : Option.Rel Text.CaseTwins (fileName.bind FileName.extension?)
      (fileName'.bind FileName.extension?) := by
    cases twins with
    | none => exact .none
    | some twins => exact FileName.extension?_twins twins
  simp only [chosen?, byDefault, byExtension]
  generalize fileName.bind FileName.extension? = extension?,
    fileName'.bind FileName.extension? = extension?' at named
  cases named with
  | none => rfl
  | some twins =>
      simp only [Option.bind_some, Setting.forExtension?_congr (FileName.normalExtension_twins twins)]

/-- An engine compiles a file with the pipeline set last for its extension, or else with the default one
set last, however the extensions are spelled.  Where neither is set a compile fails and leaves the cache,
and all else, as it was. -/
theorem compiles_with_last_set (settings : List Setting) :
    (∀ fileName selected,
      (ofSettings settings).pipelineFor fileName = selected ↔ Chooses settings fileName selected) ∧
    (∀ input session pipeline, Chooses settings input.fileName (.ok pipeline) →
      (ofSettings settings).compileArtifact input session =
        session.getOrCompile pipeline input (ofSettings settings).options) ∧
    (∀ input session error, Chooses settings input.fileName (.error error) →
      error = .providerNotFound (input.fileName.getD "<inline>") ∧
      (ofSettings settings).compileArtifact input session = some (.error (.usage error), session) ∧
      (ofSettings settings).compile input session = some (.error (.usage error), session)) ∧
    ∀ settings' fileName fileName', List.Forall₂ Respells settings' settings →
      Option.Rel Text.CaseTwins fileName' fileName → ∀ pipeline,
        Chooses settings' fileName' (.ok pipeline) ↔ Chooses settings fileName (.ok pipeline) := by
  refine ⟨fun _ _ => pipelineFor_eq_iff, fun input session pipeline chooses => ?chosen,
    fun input session error chooses => ?missing,
    fun settings' fileName fileName' respelled twins pipeline => ?respelled⟩
  case chosen => rw [compileArtifact, pipelineFor_eq_iff.mpr chooses]
  case missing =>
    have artifact : (ofSettings settings).compileArtifact input session =
        some (.error (.usage error), session) := by
      rw [compileArtifact, pipelineFor_eq_iff.mpr chooses]
    refine ⟨?_, artifact, by rw [compile, artifact]⟩
    cases chooses
    rfl
  case respelled => rw [chooses_ok_iff, chooses_ok_iff, chosen?_respelled respelled twins]

def shelved (label : Nat) : Pipeline Body :=
  (StaticPipeline.ofRegistrations [("page", Body.skip)]).pipeline label

/-- Two pipelines for one extension, and none for any other. -/
def shelf : List Setting :=
  [.usePipelineFor "TPL" (shelved 1), .usePipelineFor "..tpl" (shelved 2)]

def shelvedPage (fileName : String) : CompileInput :=
  { name := some "page", content := "page", fileName := some fileName }

/-- A page is compiled with the later pipeline, also when the extensions are spelled in another way.  The
same page cannot be compiled from another file, and stays in the cache. -/
theorem shelf_compiles_with_last_set :
    (ofSettings shelf).compileArtifact (shelvedPage "site/page.Tpl") (ofSettings shelf).start =
      (ofSettings shelf).start.getOrCompile (shelved 2) (shelvedPage "site/page.Tpl")
        (ofSettings shelf).options ∧
    Chooses [.usePipelineFor ".tPl" (shelved 1), .usePipelineFor "...TPL" (shelved 2)]
      (some "site/page.tpL") (.ok (shelved 2)) ∧
    ∃ artifact session,
      (ofSettings shelf).compileArtifact (shelvedPage "site/page.Tpl") (ofSettings shelf).start =
        some (.ok artifact, session) ∧ session.cache.keys = ["page"] ∧
      (ofSettings shelf).compile (shelvedPage "page.tpl.md") session =
        some (.error (.usage (.providerNotFound "page.tpl.md")), session) := by
  obtain ⟨_, compiles, fails, respells⟩ := compiles_with_last_set shelf
  have named : (some "site/page.Tpl").bind FileName.extension? = some "Tpl" := by decide +kernel
  have later : Setting.forExtension? "Tpl" (.usePipelineFor "..tpl" (shelved 2)) = some (shelved 2) := by
    unfold Setting.forExtension?
    exact if_pos (by decide +kernel)
  have chooses : Chooses shelf (some "site/page.Tpl") (.ok (shelved 2)) :=
    .byExtension named ⟨[_], _, [], rfl, later, by simp⟩
  have twins : Option.Rel Text.CaseTwins (some "site/page.tpL") (some "site/page.Tpl") :=
    .some (by decide +kernel)
  have missing : Chooses shelf (some "page.tpl.md") (.error (.providerNotFound "page.tpl.md")) :=
    .missing (by decide +kernel) (by simp [shelf, Setting.default?])
  refine ⟨compiles (shelvedPage "site/page.Tpl") _ _ chooses,
    (respells _ _ _ ?respelled twins _).mpr chooses, ?cached⟩
  case respelled =>
    exact .cons (.extension ⟨1, by decide +kernel⟩) (.cons (.extension ⟨1, by decide +kernel⟩) .nil)
  case cached =>
    have evaluated : ((ofSettings shelf).compileArtifact (shelvedPage "site/page.Tpl")
        (ofSettings shelf).start).any (fun (result, session) =>
          result.isOk && decide (session.cache.keys = ["page"])) = true := by decide +kernel
    obtain ⟨⟨result, session⟩, ran, evaluated⟩ := (Option.any_eq_true _ _).mp evaluated
    obtain ⟨success, keys⟩ := Bool.and_eq_true_iff.mp evaluated
    cases result with
    | error error => exact absurd success Bool.false_ne_true
    | ok artifact =>
        have failed := fails (shelvedPage "page.tpl.md") session _ missing
        exact ⟨artifact, session, ran, of_decide_eq_true keys, failed.2.2⟩

end Engine
end Templating
