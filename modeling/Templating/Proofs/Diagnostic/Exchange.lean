import Templating.Diagnostic.Json
import Templating.Proofs.Json.Roundtrip

/-!
Diagnostics that are written and read back.

A part that is absent may be left out or be written as null, the members may stand in any order, and
members of other names are skipped.  However a diagnostic is spelled, it is read as what it was.
-/

namespace Templating

/-! ## Members of a record -/

namespace Members

/-- The members that stand for the parts of a record: an absent part is null or left out. -/
inductive Spells {α : Type u} (null : α) : List (String × Option α) → List (String × α) → Prop where
  | nil : Spells null [] []
  | written {part : Option α} (rest : Spells null parts known) :
      Spells null ((name, part) :: parts) ((name, part.getD null) :: known)
  | leftOut (rest : Spells null parts known) : Spells null ((name, none) :: parts) known

variable {α : Type u} {β : Type v} {null : α} {name : String} {part : Option α}
  {parts : List (String × Option α)} {known unknown members : List (String × α)}

theorem Spells.map (spells : Spells null parts known) (translate : α → β) :
    Spells (translate null) (parts.map (Prod.map id (Option.map translate)))
      (known.map (Prod.map id translate)) := by
  induction spells with
  | nil => exact .nil
  | @written _ _ name part _ ih =>
      have spelled : Spells (translate null) ((name, part.map translate) :: _) _ := .written ih
      rwa [Option.getD_map] at spelled
  | leftOut _ ih => exact .leftOut ih

theorem Spells.mem_names (spells : Spells null parts known) {member : String × α}
    (here : member ∈ known) : member.1 ∈ parts.map Prod.fst := by
  induction spells with
  | nil => contradiction
  | written _ ih =>
      rcases List.mem_cons.mp here with rfl | later
      · exact List.mem_cons_self
      · exact List.mem_cons_of_mem _ (ih later)
  | leftOut _ ih => exact List.mem_cons_of_mem _ (ih here)

theorem valuesOf_cons (name other : String) (value : α) (members : List (String × α)) :
    valuesOf ((other, value) :: members) name =
      if other = name then value :: valuesOf members name else valuesOf members name := by
  unfold valuesOf
  by_cases same : other = name <;> simp [same]

theorem valuesOf_append (front back : List (String × α)) (name : String) :
    valuesOf (front ++ back) name = valuesOf front name ++ valuesOf back name := by
  simp [valuesOf]

theorem valuesOf_eq_nil (absent : ∀ member ∈ members, member.1 ≠ name) : valuesOf members name = [] := by
  have none : members.filter (fun member => member.1 = name) = [] := by
    simpa [List.filter_eq_nil_iff] using absent
  rw [valuesOf, none, List.map_nil]

theorem valuesOf_perm {members' : List (String × α)} (order : members.Perm members') (name : String) :
    (valuesOf members name).Perm (valuesOf members' name) :=
  (order.filter _).map Prod.snd

theorem Spells.valuesOf_eq_nil (spells : Spells null parts known)
    (unnamed : name ∉ parts.map Prod.fst) : valuesOf known name = [] := by
  apply Members.valuesOf_eq_nil
  rintro member here rfl
  exact unnamed (spells.mem_names here)

theorem Spells.valuesOf_eq (spells : Spells null parts known) (distinct : (parts.map Prod.fst).Nodup)
    (named : (name, part) ∈ parts) :
    valuesOf known name = [part.getD null] ∨ part = none ∧ valuesOf known name = [] := by
  induction spells with
  | nil => contradiction
  | @written parts known other found rest ih =>
      rw [List.map_cons, List.nodup_cons] at distinct
      rw [valuesOf_cons]
      rcases List.mem_cons.mp named with same | later
      · cases same
        rw [if_pos rfl, rest.valuesOf_eq_nil distinct.1]
        exact .inl rfl
      · have unequal : other ≠ name := by
          rintro rfl
          exact distinct.1 (List.mem_map.mpr ⟨_, later, rfl⟩)
        rw [if_neg unequal]
        exact ih distinct.2 later
  | @leftOut parts known other rest ih =>
      rw [List.map_cons, List.nodup_cons] at distinct
      rcases List.mem_cons.mp named with same | later
      · cases same
        exact .inr ⟨rfl, rest.valuesOf_eq_nil distinct.1⟩
      · exact ih distinct.2 later

/-- A part is found once or not at all, whatever stands around it. -/
theorem Spells.unique? (spells : Spells null parts known) (distinct : (parts.map Prod.fst).Nodup)
    (others : ∀ member ∈ unknown, member.1 ∉ parts.map Prod.fst)
    (order : members.Perm (known ++ unknown)) (named : (name, part) ∈ parts) :
    (Members.unique? members name).map (·.getD null) = some (part.getD null) := by
  have skipped : valuesOf unknown name = [] := by
    apply Members.valuesOf_eq_nil
    rintro member here rfl
    exact others member here (List.mem_map_of_mem named)
  have found : (valuesOf members name).Perm (valuesOf known name) := by
    simpa [valuesOf_append, skipped] using valuesOf_perm order name
  rcases spells.valuesOf_eq distinct named with written | ⟨rfl, leftOut⟩
  · rw [written, List.perm_singleton] at found
    rw [Members.unique?, found]
    rfl
  · rw [leftOut, List.perm_nil] at found
    rw [Members.unique?, found]
    rfl

theorem spells_filterMap (null : α) (parts : List (String × Option α)) :
    Spells null parts (parts.filterMap fun part => part.2.map (part.1, ·)) := by
  induction parts with
  | nil => exact .nil
  | cons part rest ih =>
      obtain ⟨name, part⟩ := part
      cases part with
      | none => exact .leftOut ih
      | some value => exact .written ih

end Members

namespace Json

theorem nodes_eq_map (items : List Json) : nodes items = items.map node := by
  induction items with
  | nil => rfl
  | cons item rest ih => simp only [nodes, ih, List.map_cons]

theorem memberNodes_eq_map (members : List (String × Json)) :
    memberNodes members = (members.map (Prod.map id node)).map (Prod.map some id) := by
  induction members with
  | nil => rfl
  | cons member rest ih => simp [memberNodes, ih, Prod.map]

end Json

/-! ## Parts of a diagnostic -/

namespace Diagnostic

open Members (Spells)

variable {diagnostic : Diagnostic}

/-- The parts of a diagnostic in the order of their declaration. -/
def parts (diagnostic : Diagnostic) : List (String × Option Json) :=
  [("file", diagnostic.file.map .text), ("line", diagnostic.line.map fun line => .int line.toNat),
    ("column", diagnostic.column.map fun column => .int column.toNat),
    ("code", diagnostic.code.map .text), ("message", some (.text diagnostic.message))]

def nodeParts (diagnostic : Diagnostic) : List (String × Option Json.Node) :=
  diagnostic.parts.map (Prod.map id (Option.map Json.node))

def partNames : List String :=
  ["file", "line", "column", "code", "message"]

theorem nodeParts_names (diagnostic : Diagnostic) : diagnostic.nodeParts.map Prod.fst = partNames :=
  rfl

theorem jsonMembers_spells (diagnostic : Diagnostic) :
    Spells .null diagnostic.parts diagnostic.jsonMembers := by
  have written : diagnostic.jsonMembers =
      diagnostic.parts.filterMap fun part => part.2.map (part.1, ·) := by
    obtain ⟨file, line, column, code, message⟩ := diagnostic
    cases file <;> cases line <;> cases column <;> cases code <;> rfl
  rw [written]
  exact Members.spells_filterMap .null diagnostic.parts

theorem orNull?_text? (part : Option String) :
    orNull? text? (((part.map Json.text).map Json.node).getD .null) = some part := by
  cases part <;> rfl

theorem count?_ofInt (count : UInt32) : count? (.number (.ofInt count.toNat)) = some count := by
  have value : (Json.Numeral.ofInt count.toNat).wholeValue = count.toNat :=
    Json.Numeral.valueOf_toDigits count.toNat
  have unsigned : ¬ (Json.Numeral.ofInt count.toNat).negative = true := by
    simp [Json.Numeral.ofInt]
  rw [count?, value, if_pos ⟨rfl, unsigned, count.toNat_lt⟩, UInt32.ofNat_toNat]

theorem orNull?_count? (part : Option UInt32) :
    orNull? count? (((part.map fun count => Json.int count.toNat).map Json.node).getD .null) =
      some part := by
  cases part with
  | none => rfl
  | some count => exact congrArg (Option.map some) (count?_ofInt count)

theorem ofParts?_parts (diagnostic : Diagnostic) :
    ofParts? (((diagnostic.file.map Json.text).map Json.node).getD .null)
      (((diagnostic.line.map fun line => Json.int line.toNat).map Json.node).getD .null)
      (((diagnostic.column.map fun column => Json.int column.toNat).map Json.node).getD .null)
      (((diagnostic.code.map Json.text).map Json.node).getD .null)
      (Json.text diagnostic.message).node = some diagnostic := by
  simp only [ofParts?, orNull?_text?, orNull?_count?]
  rfl

theorem names?_map (members : List (String × Json.Node)) :
    names? (members.map (Prod.map some id)) = some members := by
  induction members with
  | nil => rfl
  | cons member rest ih => simp [names?, ih]

theorem ofNode?_object {known unknown members : List (String × Json.Node)}
    (spells : Spells .null diagnostic.nodeParts known)
    (others : ∀ member ∈ unknown, member.1 ∉ partNames) (order : members.Perm (known ++ unknown)) :
    ofNode? (.object (members.map (Prod.map some id))) = some diagnostic := by
  have part {name : String} {part : Option Json} (named : (name, part) ∈ diagnostic.parts) :
      part? members name = some ((part.map Json.node).getD .null) :=
    spells.unique? (by rw [nodeParts_names]; decide) others order
      (List.mem_map.mpr ⟨(name, part), named, rfl⟩)
  have file := part (.head _)
  have line := part (.tail _ (.head _))
  have column := part (.tail _ (.tail _ (.head _)))
  have code := part (.tail _ (.tail _ (.tail _ (.head _))))
  have message := part (.tail _ (.tail _ (.tail _ (.tail _ (.head _)))))
  simp only [ofNode?, names?_map, file, line, column, code, message, Option.bind_eq_bind,
    Option.bind_some]
  exact ofParts?_parts diagnostic

theorem ofNode?_array (diagnostic : Diagnostic) :
    ofNode? (.array (diagnostic.nodeParts.map fun part => part.2.getD .null)) = some diagnostic :=
  ofParts?_parts diagnostic

/-! ## Texts -/

theorem parse?_of_node {source : String} {node : Json.Node}
    (reads : Json.Node.ofString? source = some node) (tells : ofNode? node = some diagnostic) :
    parse? source = some diagnostic := by
  simp only [parse?, reads, Option.bind_eq_bind, Option.bind_some, tells]

theorem parse?_object {known unknown members : List (String × Json)}
    (spells : Spells .null diagnostic.parts known) (others : ∀ member ∈ unknown, member.1 ∉ partNames)
    (order : members.Perm (known ++ unknown)) :
    parse? (Json.object members).compact = some diagnostic := by
  have others : ∀ member ∈ unknown.map (Prod.map id Json.node), member.1 ∉ partNames := by
    intro member here
    obtain ⟨other, there, rfl⟩ := List.mem_map.mp here
    exact others other there
  have order := order.map (Prod.map id Json.node)
  rw [List.map_append] at order
  apply parse?_of_node (Json.ofString?_compact _)
  rw [Json.node, Json.memberNodes_eq_map]
  exact ofNode?_object (spells.map Json.node) others order

theorem parse?_array (diagnostic : Diagnostic) :
    parse? (Json.array (diagnostic.parts.map fun part => part.2.getD .null)).compact =
      some diagnostic := by
  have items : Json.nodes (diagnostic.parts.map fun part => part.2.getD .null) =
      diagnostic.nodeParts.map fun part => part.2.getD .null := by
    rw [Json.nodes_eq_map, nodeParts, List.map_map, List.map_map]
    apply List.map_congr_left
    rintro ⟨name, _ | value⟩ _ <;> rfl
  apply parse?_of_node (Json.ofString?_compact _)
  rw [Json.node, items]
  exact ofNode?_array diagnostic

/-- A diagnostic is read from what is written of it, and from every other object or array of its parts: an
absent part is null or left out, the members stand in any order, and other members are skipped.  It does
not matter how a text spells such an object or array. -/
theorem json_carries_diagnostics (diagnostic : Diagnostic) :
    parse? diagnostic.toJson.compact = some diagnostic ∧
    (∀ known unknown members : List (String × Json), Spells .null diagnostic.parts known →
      (∀ member ∈ unknown, member.1 ∉ partNames) → members.Perm (known ++ unknown) →
        parse? (Json.object members).compact = some diagnostic) ∧
    parse? (Json.array (diagnostic.parts.map fun part => part.2.getD .null)).compact =
      some diagnostic ∧
    (∀ source, ∀ known unknown members : List (String × Json.Node),
      Spells .null diagnostic.nodeParts known → (∀ member ∈ unknown, member.1 ∉ partNames) →
        members.Perm (known ++ unknown) →
        Json.Node.ofString? source = some (.object (members.map (Prod.map some id))) →
          parse? source = some diagnostic) ∧
    ∀ source, Json.Node.ofString? source =
        some (.array (diagnostic.nodeParts.map fun part => part.2.getD .null)) →
      parse? source = some diagnostic := by
  refine ⟨?_, fun known unknown members => parse?_object, parse?_array diagnostic, ?_, ?_⟩
  · have none : ∀ member ∈ ([] : List (String × Json)), member.1 ∉ partNames :=
      fun _ member => (List.not_mem_nil member).elim
    exact parse?_object diagnostic.jsonMembers_spells none (by rw [List.append_nil])
  · intro source known unknown members spells others order reads
    exact parse?_of_node reads (ofNode?_object spells others order)
  · intro source reads
    exact parse?_of_node reads (ofNode?_array diagnostic)

/-- A diagnostic with quotes, a backslash and a control character, without a column and a code. -/
def quotedDiagnostic : Diagnostic where
  file := some "views\\\"a\".html"
  line := some 4294967295
  message := "bell \x07 and line\n"

/-- Out of order, with a null and with other members, a name among them twice and one that a part has in
an object of its own. -/
def crowdedMembers : List (String × Json) :=
  [("note", .array [.float ⟨0x7FEFFFFFFFFFFFFF⟩, .bool false]), ("message", .text quotedDiagnostic.message),
    ("column", .null), ("note", .object [("file", .null), ("file", .int (-7))]),
    ("line", .int 4294967295), ("file", .text "views\\\"a\".html")]

/-- The same diagnostic in other words, with a member that no tree holds. -/
def spacedText : String :=
  "\x7b\"message\" : \"\\u0062ell \\u0007 and line\\n\",\n \"odd\" : [ 1e400, \"\\ud800\" ] , \"line\":4294967295,"
    ++ "\t\"file\" : \"views\\u005c\\\"a\\u0022.html\" \x7d"

def spacedMembers : List (String × Json.Node) :=
  [("message", .text (some quotedDiagnostic.message)),
    ("odd", .array [.number ⟨false, [1], [], 400, false⟩, .text none]),
    ("line", .number (.ofInt 4294967295)), ("file", .text (some "views\\\"a\".html"))]

theorem quotedDiagnostic_carried :
    (∃ known unknown, Spells .null quotedDiagnostic.parts known ∧
      (∀ member ∈ unknown, member.1 ∉ partNames) ∧ crowdedMembers.Perm (known ++ unknown) ∧
      parse? (Json.object crowdedMembers).compact = some quotedDiagnostic) ∧
    ∃ known unknown, Spells .null quotedDiagnostic.nodeParts known ∧
      (∀ member ∈ unknown, member.1 ∉ partNames) ∧ spacedMembers.Perm (known ++ unknown) ∧
      Json.Node.ofString? spacedText = some (.object (spacedMembers.map (Prod.map some id))) ∧
      parse? spacedText = some quotedDiagnostic := by
  obtain ⟨_, objects, _, texts, _⟩ := json_carries_diagnostics quotedDiagnostic
  constructor
  · let known : List (String × Json) :=
      [("file", .text "views\\\"a\".html"), ("line", .int 4294967295), ("column", .null),
        ("message", .text quotedDiagnostic.message)]
    let unknown : List (String × Json) :=
      [("note", .array [.float ⟨0x7FEFFFFFFFFFFFFF⟩, .bool false]),
        ("note", .object [("file", .null), ("file", .int (-7))])]
    have spells : Spells .null quotedDiagnostic.parts known :=
      .written (.written (.written (.leftOut (.written .nil))))
    have others : ∀ member ∈ unknown, member.1 ∉ partNames := by
      simp [unknown, partNames]
    have places : [4, 3, 2, 5, 1, 0].Perm [0, 1, 2, 3, 4, 5] := by decide
    have order : crowdedMembers.Perm (known ++ unknown) :=
      places.map fun place => (known ++ unknown)[place]!
    exact ⟨known, unknown, spells, others, order, objects known unknown _ spells others order⟩
  · let known : List (String × Json.Node) :=
      [("file", .text (some "views\\\"a\".html")), ("line", .number (.ofInt 4294967295)),
        ("message", .text (some quotedDiagnostic.message))]
    let unknown : List (String × Json.Node) :=
      [("odd", .array [.number ⟨false, [1], [], 400, false⟩, .text none])]
    have spells : Spells .null quotedDiagnostic.nodeParts known :=
      .written (.written (.leftOut (.leftOut (.written .nil))))
    have others : ∀ member ∈ unknown, member.1 ∉ partNames := by
      simp [unknown, partNames]
    have places : [2, 3, 1, 0].Perm [0, 1, 2, 3] := by decide
    have order : spacedMembers.Perm (known ++ unknown) :=
      places.map fun place => (known ++ unknown)[place]!
    have scanned : Json.Token.scan? spacedText.toList =
        some (Json.Node.object (spacedMembers.map (Prod.map some id))).tokens := by decide +kernel
    have reads : Json.Node.ofString? spacedText =
        some (.object (spacedMembers.map (Prod.map some id))) := by
      simp only [Json.Node.ofString?, scanned, Option.bind_eq_bind, Option.bind_some]
      exact Json.Node.ofTokens?_tokens _
    exact ⟨known, unknown, spells, others, order, reads,
      texts spacedText known unknown _ spells others order reads⟩

end Diagnostic
end Templating
