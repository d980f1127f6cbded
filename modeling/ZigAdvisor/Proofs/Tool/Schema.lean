import ZigAdvisor.Proofs.Json.Schema
import ZigAdvisor.Proofs.Tool.Acceptance

/-!
# Advertised schemas

Arguments that conform to the schema that a tool advertises are accepted, as long as the source
text among them is within the limit.
-/

namespace ZigAdvisor.Tool

open Json (Conforms find?)

variable {s : Settings} {tool : Tool} {args : Arguments} {p : Parameter} {v : Json}

def WithinLimit (s : Settings) (tool : Tool) (args : Arguments) : Prop :=
  ∀ key ∈ ["code", "buildFileContent"], tool.required? = some key →
    ∀ t, find? args key = some (.str t) → (t.length : Int) ≤ s.maxCodeSize

/-! ## Types of arguments -/

theorem exists_text_of_conforms {default : Option String} (h : Conforms p.schema v)
    (htype : p.type = .text default) : ∃ t, v = .str t := by
  refine h.exists_text ?_
  rw [Parameter.schema, htype]
  rfl

theorem exists_mode_of_conforms (h : Conforms p.schema v) (htype : p.type = .mode) :
    ∃ mode : OptimizeMode, v = .str mode.name := by
  have henum : p.schema.member? "enum" =
      some (.arr (OptimizeMode.all.map fun mode => .constant mode.name)) := by
    rw [Parameter.schema, htype]
    rfl
  obtain ⟨mode, -, hmode⟩ := List.mem_map.mp (h.mem_enum henum)
  exact ⟨mode, hmode.symm⟩

theorem exists_texts_of_conforms (h : Conforms p.schema v) (htype : p.type = .textList) :
    ∃ items, v = .arr items ∧ ∀ item ∈ items, ∃ t, item = .str t := by
  have hschema : p.schema.member? "type" = some (.constant "array") ∧
      p.schema.member? "items" = some (.object [("type", .constant "string")]) := by
    rw [Parameter.schema, htype]
    exact ⟨rfl, rfl⟩
  obtain ⟨items, rfl, hitems⟩ := h.exists_items hschema.1 hschema.2
  exact ⟨items, rfl, fun item hitem => (hitems item hitem).exists_text rfl⟩

def entrySchema : Json := .object [
  ("type", .constant "object"),
  ("properties", .object [
    ("name", .object [("type", .constant "string")]),
    ("url", .object [("type", .constant "string")])]),
  ("required", .arr [.constant "name"])]

theorem hasName_of_conforms (h : Conforms entrySchema v) : v.HasName := by
  obtain ⟨members, rfl⟩ := h.exists_members rfl
  have hkey : Json.str "name" ∈ [Json.constant "name"] := List.mem_cons_self
  obtain ⟨name, hname⟩ := h.exists_required rfl hkey
  obtain ⟨t, rfl⟩ := (h.of_property rfl rfl hname).exists_text rfl
  exact ⟨members, t, rfl, hname⟩

theorem exists_entries_of_conforms (h : Conforms p.schema v) (htype : p.type = .dependencyList) :
    ∃ items, v = .arr items ∧ ∀ item ∈ items, item.HasName := by
  have hschema : p.schema.member? "type" = some (.constant "array") ∧
      p.schema.member? "items" = some entrySchema := by
    rw [Parameter.schema, htype]
    exact ⟨rfl, rfl⟩
  obtain ⟨items, rfl, hitems⟩ := h.exists_items hschema.1 hschema.2
  exact ⟨items, rfl, fun item hitem => hasName_of_conforms (hitems item hitem)⟩

/-! ## Arguments of tools -/

theorem member?_properties : tool.inputSchema.member? "properties" =
    some (.obj (tool.parameters.map fun q => (Text.ofString q.name, q.schema))) := by
  cases tool <;> rfl

theorem find?_properties (hp : p ∈ tool.parameters) :
    find? (tool.parameters.map fun q => (Text.ofString q.name, q.schema)) p.name =
      some p.schema := by
  cases tool <;> fin_cases hp <;> rfl

theorem member?_required {key : String} (hkey : tool.required? = some key) :
    tool.inputSchema.member? "required" = some (.arr [.constant key]) := by
  rw [inputSchema, hkey]
  rfl

theorem conforms_of_parameter (h : Conforms tool.inputSchema (.obj args))
    (hp : p ∈ tool.parameters) (hv : find? args p.name = some v) : Conforms p.schema v :=
  h.of_property member?_properties (find?_properties hp) hv

theorem exists_of_required {key : String} (h : Conforms tool.inputSchema (.obj args))
    (hkey : tool.required? = some key) : ∃ v, find? args key = some v :=
  h.exists_required (member?_required hkey) List.mem_cons_self

/-- A text that a tool needs is there. -/
theorem isText_of_conforms {default : Option String} (h : Conforms tool.inputSchema (.obj args))
    (hp : p ∈ tool.parameters) (htype : p.type = .text default)
    (hkey : tool.required? = some p.name) : Json.IsText (find? args p.name) := by
  obtain ⟨v, hv⟩ := exists_of_required h hkey
  obtain ⟨t, rfl⟩ := exists_text_of_conforms (conforms_of_parameter h hp hv) htype
  exact ⟨t, hv⟩

theorem isSource_of_conforms {default : Option String} (h : Conforms tool.inputSchema (.obj args))
    (hlimit : tool.WithinLimit s args) (hp : p ∈ tool.parameters) (htype : p.type = .text default)
    (hkey : tool.required? = some p.name) (hsource : p.name ∈ ["code", "buildFileContent"]) :
    IsSource s (find? args p.name) := by
  obtain ⟨t, ht⟩ := isText_of_conforms h hp htype hkey
  exact ⟨t, ht, hlimit p.name hsource hkey t ht⟩

/-- A list of an optional argument is missing or has items of the type that is advertised. -/
theorem isListOf_of_conforms {q : Json → Prop} (h : Conforms tool.inputSchema (.obj args))
    (hp : p ∈ tool.parameters)
    (hitems : ∀ v, Conforms p.schema v → ∃ items, v = .arr items ∧ ∀ item ∈ items, q item) :
    Json.IsListOf q (find? args p.name) := by
  cases hv : find? args p.name with
  | none => exact Or.inl rfl
  | some v =>
    obtain ⟨items, rfl, hall⟩ := hitems v (conforms_of_parameter h hp hv)
    exact Or.inr (Or.inr ⟨items, rfl, hall⟩)

/-- Arguments that conform to the advertised schema are accepted, as long as they are not too
large. -/
theorem accepts_of_conforms (h : Conforms tool.inputSchema (.obj args))
    (hlimit : tool.WithinLimit s args) : tool.Accepts s args := by
  cases tool with
  | optimizeCode => exact isSource_of_conforms h hlimit List.mem_cons_self rfl rfl (by decide)
  | estimateComputeUnits =>
    exact isSource_of_conforms h hlimit List.mem_cons_self rfl rfl (by decide)
  | generateCode => exact isText_of_conforms h List.mem_cons_self rfl rfl
  | getRecommendations =>
    exact isSource_of_conforms h hlimit List.mem_cons_self rfl rfl (by decide)
  | generateBuildZig =>
    have hparameter (i : Nat) {p : Parameter} (hp : generateBuildZig.parameters[i]? = some p) :
        p ∈ generateBuildZig.parameters := List.mem_of_getElem? hp
    refine ⟨fun level hlevel => ?_, ?_, ?_⟩
    · obtain ⟨mode, heq⟩ :=
        exists_mode_of_conforms (conforms_of_parameter h (hparameter 1 rfl) hlevel) rfl
      exact ⟨mode, Json.str.inj heq⟩
    · exact isListOf_of_conforms h (hparameter 3 rfl) fun v hv => exists_texts_of_conforms hv rfl
    · exact isListOf_of_conforms h (hparameter 4 rfl) fun v hv => exists_texts_of_conforms hv rfl
  | analyzeBuildZig => exact isSource_of_conforms h hlimit List.mem_cons_self rfl rfl (by decide)
  | generateBuildZon =>
    exact isListOf_of_conforms h List.mem_cons_self fun v hv => exists_entries_of_conforms hv rfl

/-! ## Arguments that conform -/

theorem conforms_text {default : Option String} (htype : p.type = .text default) (t : Text) :
    Conforms p.schema (.str t) := by
  obtain ⟨name, type, description⟩ := p
  obtain rfl : type = .text default := htype
  have hother (key : Text) (hkey : key ∈ [Text.ofString "enum", "items"]) :
      (Parameter.schema ⟨name, .text default, description⟩).member? key = none := by
    fin_cases hkey <;> cases default <;> rfl
  refine .intro ?_ ?_ ?_ ?_ ?_
  · intro name hname
    exact (Json.str.inj (Option.some.inj hname)).symm
  · intro values hvalues
    rw [hother _ (by decide)] at hvalues
    cases hvalues
  · rintro item values - ⟨⟩
  · rintro fields key field v - - ⟨⟩
  · rintro keys key members - - ⟨⟩

/-- The text that a tool needs is enough for its schema. -/
theorem conforms_required {key : String} (hkey : tool.required? = some key) (t : Text) :
    Conforms tool.inputSchema (.obj [(Text.ofString key, .str t)]) := by
  obtain ⟨p, hp, rfl, default, htype⟩ :
      ∃ p ∈ tool.parameters, p.name = key ∧ ∃ default, p.type = .text default := by
    cases tool <;> cases hkey <;> exact ⟨_, List.mem_cons_self, rfl, _, rfl⟩
  have hother (k : Text) (hk : k ∈ [Text.ofString "enum", "items"]) :
      tool.inputSchema.member? k = none := by
    fin_cases hk <;> cases tool <;> rfl
  refine .intro ?_ ?_ ?_ ?_ ?_
  · intro name hname
    exact (Json.str.inj (Option.some.inj hname)).symm
  · intro values hvalues
    rw [hother _ (by decide)] at hvalues
    cases hvalues
  · rintro item values - ⟨⟩
  · intro fields k field v hfields hfield hv
    rw [member?_properties] at hfields
    obtain rfl := Json.obj.inj (Option.some.inj hfields)
    by_cases hk : k = p.name
    · subst hk
      rw [find?_properties hp] at hfield
      rw [Json.member?, Json.find?_cons_self] at hv
      rw [← Option.some.inj hfield, ← Option.some.inj hv]
      exact conforms_text htype t
    · rw [Json.member?, Json.find?_cons_of_ne hk] at hv
      cases hv
  · intro keys k members hkeys hmem hmembers
    rw [member?_required hkey] at hkeys
    obtain rfl := Json.arr.inj (Option.some.inj hkeys)
    rw [List.mem_singleton] at hmem
    rw [← Json.obj.inj hmembers, Json.str.inj hmem, Json.find?_cons_self]
    rfl

end ZigAdvisor.Tool
