import Templating.Config.Load
import Templating.Proofs.Config.Writing
import Templating.Yaml.Document

/-!
Configurations that are written as mappings and read back.

A mapping has an entry for each member of `Config.toJson`, with a node that writes the value of the member.
Any of the entries may be left out, they stand in any order, and entries under other names may stand between
them: what is read has the settings that are there, and defaults for the others.  A setting that stands there
twice is refused, and so is a key that is a collection.

The entries are read one after another.  What an entry adds to the settings that were found before is said
once for entries that are as they should be (`Found.addEntry_of_entry`) and once for whatever is accepted
(`Found.addEntry_ok`); both are carried over all entries by induction.
-/

namespace Templating.Config

/-- The settings of a configuration by name, as they are written. -/
def settings (config : Config) : List (String × Json) :=
  match config.toJson with
  | .object members => members
  | _ => []

def names : List String :=
  ["debug", "namespaces", "references", "encoding", "cache_capacity", "failure_policy"]

/-- Capacities are numbers of 64 bits. -/
def Fits (config : Config) : Prop :=
  ∀ capacity, config.cacheCapacity = some capacity → capacity < UInt64.size

/-- What an entry of a mapping may be: that of a setting, or one under another name. -/
inductive Entry (config : Config) : Yaml.Node × Yaml.Node → Prop where
  | setting (style : Yaml.ScalarStyle) (held : (name, value) ∈ config.settings)
      (writes : Yaml.Writes value node) : Entry config (.scalar style name, node)
  | other (style : Yaml.ScalarStyle) (unknown : name ∉ names) (node : Yaml.Node) :
      Entry config (.scalar style name, node)

def present (entries : List (Yaml.Node × Yaml.Node)) (name : String) : Bool :=
  entries.any (Yaml.isNamed name)

/-- The configuration that has some settings of another and defaults for the rest. -/
def only (config : Config) (kept : String → Bool) : Config :=
  let defaults : Config := {}
  { debug := if kept "debug" then config.debug else defaults.debug
    namespaces := if kept "namespaces" then config.namespaces else defaults.namespaces
    references := if kept "references" then config.references else defaults.references
    encoding := if kept "encoding" then config.encoding else defaults.encoding
    cacheCapacity := if kept "cache_capacity" then config.cacheCapacity else defaults.cacheCapacity
    failurePolicy := if kept "failure_policy" then config.failurePolicy else defaults.failurePolicy }

/-- Some settings of a configuration as what was found. -/
def found (config : Config) (kept : String → Bool) : Found :=
  { debug := if kept "debug" then some config.debug else none
    namespaces := if kept "namespaces" then some config.namespaces else none
    references := if kept "references" then some config.references else none
    encoding := if kept "encoding" then some config.encoding else none
    cacheCapacity := if kept "cache_capacity" then some config.cacheCapacity else none
    failurePolicy := if kept "failure_policy" then some config.failurePolicy else none }

variable {config : Config} {entries : List (Yaml.Node × Yaml.Node)} {entry : Yaml.Node × Yaml.Node}
  {kept kept' : String → Bool} {name : String}

theorem names_of_settings (config : Config) : config.settings.map Prod.fst = names :=
  rfl

theorem mem_names {value : Json} (held : (name, value) ∈ config.settings) : name ∈ names :=
  names_of_settings config ▸ List.mem_map_of_mem (f := Prod.fst) held

theorem only_of_all (all : ∀ name ∈ names, kept name = true) : config.only kept = config := by
  simp only [names, List.forall_mem_cons] at all
  simp only [only, all, if_true]

theorem found_congr (same : ∀ name ∈ names, kept name = kept' name) :
    config.found kept = config.found kept' := by
  simp only [names, List.forall_mem_cons] at same
  simp only [found, same]

theorem config_found (config : Config) (kept : String → Bool) :
    (config.found kept).config = config.only kept := by
  simp only [Found.config, found, only]
  congr <;> split <;> rfl

/-! ## Entries that are written -/

theorem decodeCapacity?_of_settings (fits : config.Fits) {value : Json} {node : Yaml.Node}
    (held : ("cache_capacity", value) ∈ config.settings) (writes : Yaml.Writes value node) :
    Yaml.decodeCapacity? node = some config.cacheCapacity := by
  cases bound : config.cacheCapacity with
  | none =>
      obtain rfl : value = .null := by simpa [settings, toJson, bound] using held
      cases writes
      simp [Yaml.decodeCapacity?]
  | some capacity =>
      obtain rfl : value = .int capacity := by simpa [settings, toJson, bound] using held
      exact Yaml.decodeCapacity?_of_writes writes (fits capacity bound)

theorem Found.add_of_settings (fits : config.Fits) {value : Json} {node : Yaml.Node}
    (held : (name, value) ∈ config.settings) (writes : Yaml.Writes value node)
    (absent : kept name = false) :
    (config.found kept).add name node =
      .ok (config.found fun other => kept other || other = name) := by
  have capacity := held
  simp only [settings, toJson, List.mem_cons, Prod.mk.injEq, List.not_mem_nil, or_false] at held
  rcases held with ⟨rfl, rfl⟩ | ⟨rfl, rfl⟩ | ⟨rfl, rfl⟩ | ⟨rfl, rfl⟩ | ⟨rfl, rfl⟩ | ⟨rfl, rfl⟩
  · simp [add, fill, found, absent, Yaml.decodeBool?_of_writes writes, Except.map]
  · simp [add, fill, found, absent, Yaml.decodeTexts?_of_writes writes, Except.map]
  · simp [add, fill, found, absent, Yaml.decodeTexts?_of_writes writes, Except.map]
  · simp [add, fill, found, absent, Yaml.decodeEncoding?_of_writes writes, Except.map]
  · simp [add, fill, found, absent, decodeCapacity?_of_settings fits capacity writes, Except.map]
  · simp [add, fill, found, absent, Yaml.decodeFailurePolicy?_of_writes writes, Except.map]

theorem Found.add_of_unknown {found : Found} {node : Yaml.Node} (unknown : name ∉ names) :
    found.add name node = .ok found := by
  simp only [names, List.mem_cons, List.not_mem_nil, or_false, not_or] at unknown
  simp only [add, unknown, if_false]

/-- An entry adds the setting that it is named for, unless the setting is there already. -/
theorem Found.addEntry_of_entry (fits : config.Fits) (made : config.Entry entry)
    (once : ∀ name ∈ names, Yaml.isNamed name entry = true → kept name = false) :
    (config.found kept).addEntry entry =
      .ok (config.found fun name => kept name || Yaml.isNamed name entry) := by
  cases made with
  | @setting name value node style held writes =>
      have absent : kept name = false := once name (mem_names held) (by simp [Yaml.isNamed])
      simp only [addEntry, Yaml.decodeText?, add_of_settings fits held writes absent]
      exact congrArg _ (found_congr fun other _ => by simp [Yaml.isNamed, eq_comm])
  | @other name style unknown node =>
      simp only [addEntry, Yaml.decodeText?, add_of_unknown unknown]
      refine congrArg _ (found_congr fun known member => ?_)
      have different : name ≠ known := fun same => unknown (same ▸ member)
      simp [Yaml.isNamed, different]

theorem countP_cons_toNat (counts : α → Bool) (first : α) (rest : List α) :
    (first :: rest).countP counts = (counts first).toNat + rest.countP counts := by
  cases here : counts first <;> simp [here, Nat.add_comm]

theorem Found.addAll_of_entries (fits : config.Fits) (made : ∀ entry ∈ entries, config.Entry entry)
    (once : ∀ name ∈ names, (kept name).toNat + entries.countP (Yaml.isNamed name) ≤ 1) :
    (config.found kept).addAll entries =
      .ok (config.found fun name => kept name || present entries name) := by
  induction entries generalizing kept with
  | nil => simp [addAll, present]
  | cons entry rest ih =>
      simp only [countP_cons_toNat] at once
      have absent : ∀ name ∈ names, Yaml.isNamed name entry = true → kept name = false := by
        intro name known named
        have bound := once name known
        rw [named, Bool.toNat_true] at bound
        exact Bool.toNat_eq_zero.mp (by omega)
      have still : ∀ name ∈ names,
          (kept name || Yaml.isNamed name entry).toNat + rest.countP (Yaml.isNamed name) ≤ 1 := by
        intro name known
        have either : ∀ left right : Bool, (left || right).toNat ≤ left.toNat + right.toNat := by decide
        have bound := once name known
        have := either (kept name) (Yaml.isNamed name entry)
        omega
      have first := addEntry_of_entry fits (made entry List.mem_cons_self) absent
      have later := ih (fun entry member => made entry (List.mem_cons_of_mem _ member)) still
      simp only [addAll, first, later]
      exact congrArg _ (found_congr fun name _ => by simp [present, Bool.or_assoc])

theorem ofNode_of_entries (fits : config.Fits) (made : ∀ entry ∈ entries, config.Entry entry)
    (once : ∀ name ∈ names, entries.countP (Yaml.isNamed name) ≤ 1) :
    ofNode (.mapping entries) = .ok (config.only (present entries)) := by
  have read : (config.found fun _ => false).addAll entries =
      .ok (config.found fun name => false || present entries name) :=
    Found.addAll_of_entries fits made (by simpa using once)
  have none : ({} : Found) = config.found fun _ => false := rfl
  simp only [ofNode, none, read, Except.map, Bool.false_or, config_found]

/-! ## Settings that are saved -/

theorem ofNode_of_writes (fits : config.Fits) {node : Yaml.Node}
    (writes : Yaml.Writes config.toJson node) : ofNode node = .ok config := by
  cases writes with
  | @object _ entries written =>
      have made : ∀ entry ∈ entries, config.Entry entry := by
        intro entry member
        obtain ⟨style, name, value, named, held, writes⟩ := written.exists_member entry member
        obtain ⟨key, node⟩ := entry
        cases named
        exact .setting style held writes
      have counted : ∀ name ∈ names, entries.countP (Yaml.isNamed name) = 1 := by
        intro name known
        have distinct : ∀ name ∈ names, names.count name = 1 := by decide
        rw [written.countP_isNamed]
        exact distinct name known
      have all : ∀ name ∈ names, present entries name = true := by
        intro name known
        exact List.any_eq_true.mpr (List.countP_pos_iff.mp (by simp [counted name known]))
      rw [ofNode_of_entries fits made fun name known => Nat.le_of_eq (counted name known), only_of_all all]

theorem exists_writes_toJson (config : Config) : ∃ node, Yaml.Writes config.toJson node := by
  obtain ⟨namespaces, writesNamespaces⟩ := Yaml.exists_writes_texts config.namespaces
  obtain ⟨references, writesReferences⟩ := Yaml.exists_writes_texts config.references
  have written {value : Json} {capacity : Yaml.Node} (writesCapacity : Yaml.Writes value capacity) :=
    Yaml.Writes.object (.cons .plain "debug" (.bool config.debug)
      (.cons .plain "namespaces" writesNamespaces (.cons .plain "references" writesReferences
        (.cons .plain "encoding" (.text .plain config.encoding.name)
          (.cons .plain "cache_capacity" writesCapacity
            (.cons .plain "failure_policy" (.text .plain config.failurePolicy.name) .nil))))))
  unfold toJson
  cases config.cacheCapacity with
  | none => exact ⟨_, written .null⟩
  | some bound => exact ⟨_, written (.int bound)⟩

/-! ## Entries that are refused -/

/-- Whether the setting under a name has been read. -/
def Found.has (found : Found) (name : String) : Bool :=
  if name = "debug" then found.debug.isSome
  else if name = "namespaces" then found.namespaces.isSome
  else if name = "references" then found.references.isSome
  else if name = "encoding" then found.encoding.isSome
  else if name = "cache_capacity" then found.cacheCapacity.isSome
  else found.failurePolicy.isSome

theorem fill_ok {decode : Yaml.Node → Option α} {held held' : Option α} {node : Yaml.Node}
    (filled : fill name decode held node = .ok held') : held.isSome = false ∧ held'.isSome = true := by
  unfold fill at filled
  split at filled
  · contradiction
  · next absent =>
      split at filled
      · cases filled
        exact ⟨by simpa using absent, rfl⟩
      · contradiction

/-- An entry that is accepted and has the name of a setting fills the setting, which was not filled before. -/
theorem Found.add_ok {found found' : Found} {node : Yaml.Node} (added : found.add name node = .ok found') :
    ∀ known ∈ names, (found'.has known).toNat = (found.has known).toNat + (decide (name = known)).toNat := by
  have filled {α : Type} {decode : Yaml.Node → Option α} {held : Option α} {update : Option α → Found}
      (added : (fill name decode held node).map update = .ok found') :
      ∃ held', found' = update held' ∧ held.isSome = false ∧ held'.isSome = true := by
    cases read : fill name decode held node with
    | error refusal => simp [read, Except.map] at added
    | ok held' =>
        simp only [read, Except.map, Except.ok.injEq] at added
        exact ⟨held', added.symm, fill_ok read⟩
  simp only [names, List.forall_mem_cons]
  unfold add at added
  iterate 6
    split at added
    · next same =>
        obtain ⟨held', rfl, absent, there⟩ := filled added
        simp [same, has, absent, there]
  next other _ _ _ _ =>
    cases added
    simp_all [has]

theorem Found.addEntry_ok {found found' : Found} (added : found.addEntry entry = .ok found') :
    (∃ style name, entry.1 = .scalar style name) ∧
      ∀ name ∈ names, (found'.has name).toNat = (found.has name).toNat + (Yaml.isNamed name entry).toNat := by
  obtain ⟨key, node⟩ := entry
  cases key with
  | scalar style name => exact ⟨⟨style, name, rfl⟩, add_ok added⟩
  | sequence items => contradiction
  | mapping entries => contradiction

theorem Found.addAll_ok {found found' : Found} (added : found.addAll entries = .ok found') :
    (∀ entry ∈ entries, ∃ style name, entry.1 = .scalar style name) ∧
      ∀ name ∈ names,
        (found'.has name).toNat = (found.has name).toNat + entries.countP (Yaml.isNamed name) := by
  induction entries generalizing found with
  | nil =>
      cases added
      simp
  | cons entry rest ih =>
      cases first : found.addEntry entry with
      | error refusal => simp [addAll, first] at added
      | ok middle =>
          simp only [addAll, first] at added
          obtain ⟨named, fills⟩ := addEntry_ok first
          obtain ⟨allNamed, fillsAll⟩ := ih added
          refine ⟨List.forall_mem_cons.mpr ⟨named, allNamed⟩, fun name known => ?_⟩
          rw [fillsAll name known, fills name known, countP_cons_toNat, Nat.add_assoc]

/-- In a mapping that is accepted all keys are scalars, and no setting stands twice. -/
theorem ofNode_ok (accepted : ofNode (.mapping entries) = .ok config) :
    (∀ entry ∈ entries, ∃ style name, entry.1 = .scalar style name) ∧
      ∀ name ∈ names, entries.countP (Yaml.isNamed name) ≤ 1 := by
  cases read : Found.addAll {} entries with
  | error refusal => simp [ofNode, read, Except.map] at accepted
  | ok found =>
      obtain ⟨named, fills⟩ := Found.addAll_ok read
      refine ⟨named, fun name known => ?_⟩
      have counted := fills name known
      have bound := Bool.toNat_le (found.has name)
      omega

theorem exists_refusal {node : Yaml.Node} (refused : ∀ config, ofNode node ≠ .ok config) :
    ∃ refusal, ofNode node = .error refusal := by
  cases decoded : ofNode node with
  | ok config => exact absurd decoded (refused config)
  | error refusal => exact ⟨refusal, rfl⟩

/-! ## Texts and files -/

variable {Cause : Type u}

theorem text_of_toUTF8 (source : String) : (FileContent.bytes source.toUTF8).text = .ok source := by
  have decoded : String.fromUTF8? source.toUTF8 = some source := by
    rw [String.fromUTF8?, String.toUTF8_eq_toByteArray, dif_pos source.isValidUTF8]
    rfl
  simp only [FileContent.text, decoded]

theorem ofYaml_of_read {read : Yaml.Reader Cause} {source : String} {node : Yaml.Node}
    (reads : read source = .ok (some node)) :
    ofYaml read source = (ofNode node).mapError fun refusal => .malformed (.refused refusal) := by
  simp only [ofYaml, parse, reads]
  cases ofNode node <;> rfl

/-- A configuration is written under six names, and is read setting by setting: those that stand in a mapping
once, wherever they stand, have the values they are written with, and the others their defaults.  A setting
that stands there twice is refused, and so is a key that is a collection.  A text is read as its document is,
and a file as its text is, with the same configuration or the same cause of failure. -/
theorem settings_decoded_by_name (read : Yaml.Reader Cause) :
    (∀ config : Config, config.toJson = .object
      [("debug", .bool config.debug),
        ("namespaces", .array (config.namespaces.map .text)),
        ("references", .array (config.references.map .text)),
        ("encoding", .text (match config.encoding with | .html => "html" | .raw => "raw")),
        ("cache_capacity", match config.cacheCapacity with | none => .null | some bound => .int bound),
        ("failure_policy",
          .text (match config.failurePolicy with | .retry => "retry" | .remember => "remember"))]) ∧
    (∀ config : Config, config.Fits → (∃ node, Yaml.Writes config.toJson node) ∧
      ∀ node, Yaml.Writes config.toJson node → ofNode node = .ok config) ∧
    (∀ (config : Config) entries, config.Fits → (∀ entry ∈ entries, config.Entry entry) →
      (∀ name ∈ names, entries.countP (Yaml.isNamed name) ≤ 1) →
        ofNode (.mapping entries) = .ok (config.only (present entries)) ∧
        ((∀ name ∈ names, present entries name = true) → ofNode (.mapping entries) = .ok config)) ∧
    (∀ entries, (∃ name ∈ names, 2 ≤ entries.countP (Yaml.isNamed name)) ∨
        (∃ entry ∈ entries, ∀ style text, entry.1 ≠ .scalar style text) →
      ∃ refusal, ofNode (.mapping entries) = .error refusal) ∧
    (∀ source node, read source = .ok (some node) →
      ofYaml read source = (ofNode node).mapError fun refusal => .malformed (.refused refusal)) ∧
    ∀ path source, ∃ result : Except (Malformed Cause) Config,
      ofYaml read source = result.mapError .malformed ∧
      load read path (.bytes source.toUTF8) = result.mapError (.malformedFile path) := by
  refine ⟨?written, ?saved, ?partly, ?refused, fun _ _ => ofYaml_of_read, ?file⟩
  case written =>
    rintro ⟨_, _, _, encoding, capacity, policy⟩
    cases encoding <;> cases capacity <;> cases policy <;> rfl
  case saved => exact fun config fits => ⟨exists_writes_toJson config, fun _ => ofNode_of_writes fits⟩
  case partly =>
    intro config entries fits made once
    have decoded := ofNode_of_entries fits made once
    refine ⟨decoded, fun all => ?_⟩
    rw [decoded, only_of_all all]
  case refused =>
    intro entries wrong
    refine exists_refusal fun config accepted => ?_
    obtain ⟨named, once⟩ := ofNode_ok accepted
    rcases wrong with ⟨name, known, twice⟩ | ⟨entry, member, unnamed⟩
    · have := once name known
      omega
    · obtain ⟨style, name, scalar⟩ := named entry member
      exact unnamed style name scalar
  case file =>
    intro path source
    refine ⟨parse read source, rfl, ?_⟩
    simp only [load, text_of_toUTF8]

def saved : Config where
  debug := true
  references := ["null", "a b"]
  cacheCapacity := some 64
  failurePolicy := .remember

/-- Three of the settings out of order, with a member of another name. -/
def savedText : String :=
  "failure_policy: remember\ncolor: [red, ~]\n\"cache_capacity\": 64\nreferences: ['null', \"a b\"]\n"

def savedEntries : List (Yaml.Node × Yaml.Node) :=
  [(.scalar .plain "failure_policy", .scalar .plain "remember"),
    (.scalar .plain "color", .sequence [.scalar .plain "red", .scalar .plain "~"]),
    (.scalar .quoted "cache_capacity", .scalar .plain "64"),
    (.scalar .plain "references", .sequence [.scalar .quoted "null", .scalar .quoted "a b"])]

/-- All of the settings, the last first. -/
def allEntries : List (Yaml.Node × Yaml.Node) :=
  [(.scalar .plain "failure_policy", .scalar .plain "remember"),
    (.scalar .plain "cache_capacity", .scalar .plain "64"),
    (.scalar .plain "encoding", .scalar .quoted "html"),
    (.scalar .quoted "references", .sequence [.scalar .quoted "null", .scalar .plain "a b"]),
    (.scalar .plain "namespaces", .sequence []), (.scalar .plain "debug", .scalar .plain "true")]

theorem eq_ok_of_toOption {result : Except Cause α} {value : α} (some : result.toOption = .some value) :
    result = .ok value := by
  cases result <;> cases some
  rfl

theorem saved_decoded_by_name :
    Yaml.readSubset savedText = .ok (some (.mapping savedEntries)) ∧
    load Yaml.readSubset "site.yaml" (.bytes savedText.toUTF8) = .ok { saved with debug := false } ∧
    ofNode (.mapping allEntries) = .ok saved ∧
    (∃ node, Yaml.Writes saved.toJson node ∧ ofNode node = .ok saved) ∧
    ∃ refusal, ofNode (.mapping (savedEntries ++ allEntries)) = .error refusal := by
  obtain ⟨-, round, decodes, refused, texts, files⟩ := settings_decoded_by_name Yaml.readSubset
  have fits : saved.Fits := by
    rintro capacity ⟨⟩
    decide
  have reads : Yaml.readSubset savedText = .ok (some (.mapping savedEntries)) :=
    eq_ok_of_toOption (by decide +kernel)
  have setting {name : String} {value : Json} {node : Yaml.Node} (style : Yaml.ScalarStyle)
      (held : (name, value) ∈ saved.settings) (writes : Yaml.Writes value node) :
      saved.Entry (.scalar style name, node) :=
    .setting style held writes
  have policy := fun style =>
    setting style (.tail _ (.tail _ (.tail _ (.tail _ (.tail _ (.head _)))))) (.text .plain "remember")
  have capacity := fun style =>
    setting style (.tail _ (.tail _ (.tail _ (.tail _ (.head _))))) (.int 64)
  have references := fun style inner =>
    setting style (.tail _ (.tail _ (.head _)))
      (.array (.cons (.text .quoted "null") (.cons (.text inner "a b") .nil)))
  refine ⟨reads, ?file, ?all, ?round, ?twice⟩
  case file =>
    have made : ∀ entry ∈ savedEntries, saved.Entry entry := by
      simp only [savedEntries, List.forall_mem_cons]
      exact ⟨policy .plain, .other .plain (by decide) _, capacity .quoted, references .plain .quoted,
        by simp⟩
    have once : ∀ name ∈ names, savedEntries.countP (Yaml.isNamed name) ≤ 1 := by decide +kernel
    have kept : saved.only (present savedEntries) = { saved with debug := false } := by decide +kernel
    obtain ⟨result, same, loaded⟩ := files "site.yaml" savedText
    rw [texts savedText _ reads, (decodes saved savedEntries fits made once).1, kept] at same
    rw [loaded]
    cases result <;> cases same
    rfl
  case all =>
    have made : ∀ entry ∈ allEntries, saved.Entry entry := by
      simp only [allEntries, List.forall_mem_cons]
      exact ⟨policy .plain, capacity .plain,
        setting .plain (.tail _ (.tail _ (.tail _ (.head _)))) (.text _ _),
        references .quoted .plain, setting .plain (.tail _ (.head _)) (.array .nil),
        setting .plain (.head _) (.bool true), by simp⟩
    have once : ∀ name ∈ names, allEntries.countP (Yaml.isNamed name) ≤ 1 := by decide +kernel
    exact (decodes saved allEntries fits made once).2 (by decide +kernel)
  case round =>
    obtain ⟨⟨node, writes⟩, back⟩ := round saved fits
    exact ⟨node, writes, back node writes⟩
  case twice => exact refused _ (.inl ⟨"references", by decide, by decide +kernel⟩)

/-- An entry of which the key is itself a mapping. -/
def oddEntries : List (Yaml.Node × Yaml.Node) :=
  [(.mapping [(.scalar .plain "debug", .scalar .plain "true")], .scalar .plain "x")]

/-- A key that is a collection is none of the names, but its entry is not skipped. -/
theorem oddEntries_refused :
    Yaml.readSubset "\x7bdebug: true\x7d: x" = .ok (some (.mapping oddEntries)) ∧
    (∀ name ∈ names, present oddEntries name = false) ∧
    ofNode (.mapping oddEntries) = .error .notName ∧
    ¬ ∀ (config : Config) entries, (∀ name ∈ names, present entries name = false) →
      ofNode (.mapping entries) = .ok (config.only (present entries)) := by
  have unnamed : ∀ name ∈ names, present oddEntries name = false := by decide +kernel
  have refused : ofNode (.mapping oddEntries) = .error .notName := rfl
  refine ⟨eq_ok_of_toOption (by decide +kernel), unnamed, refused, fun skipped => ?_⟩
  cases refused.symm.trans (skipped {} oddEntries unnamed)

end Templating.Config
