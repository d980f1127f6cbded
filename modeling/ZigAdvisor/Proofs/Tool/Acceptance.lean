import ZigAdvisor.Proofs.Json.Members
import ZigAdvisor.Proofs.Text.Word
import ZigAdvisor.Tool.Call

/-!
# Accepted arguments

What each tool demands of its arguments, said of the values that are there or missing. A tool
answers exactly to the arguments that it accepts.

A tool takes an optional text of another type as if it were left out, and so the address of an
entry of a list of packages. To what the tool answers it makes no difference which of the two it
is.
-/

namespace ZigAdvisor

namespace Json

def IsText (j : Option Json) : Prop := ∃ t, j = some (.str t)

def IsListOf (p : Json → Prop) (j : Option Json) : Prop :=
  j = none ∨ j = some .null ∨ ∃ items, j = some (.arr items) ∧ ∀ item ∈ items, p item

def HasName (j : Json) : Prop :=
  ∃ members name, j = .obj members ∧ find? members "name" = some (.str name)

theorem hasName_iff {j : Json} : j.HasName ↔ ∃ name, j.member? "name" = some (.str name) := by
  cases j <;> simp [HasName, member?]

end Json

namespace Tool

open Json (find? IsText IsListOf HasName)

def IsSource (s : Settings) (j : Option Json) : Prop :=
  ∃ t : Text, j = some (.str t) ∧ (t.length : Int) ≤ s.maxCodeSize

def Accepts (s : Settings) (tool : Tool) (args : Arguments) : Prop :=
  match tool with
  | optimizeCode | estimateComputeUnits | getRecommendations => IsSource s (find? args "code")
  | generateCode => IsText (find? args "prompt")
  | generateBuildZig =>
    (∀ level, find? args "optimizationLevel" = some (.str level) →
      ∃ mode : OptimizeMode, level = mode.name) ∧
    IsListOf (fun item => ∃ t, item = .str t) (find? args "dependencies") ∧
    IsListOf (fun item => ∃ t, item = .str t) (find? args "buildSteps")
  | analyzeBuildZig => IsSource s (find? args "buildFileContent")
  | generateBuildZon => IsListOf HasName (find? args "dependencies")

end Tool

theorem OptimizeMode.name_injective : Function.Injective name := by
  intro mode mode'
  cases mode <;> cases mode' <;> decide

theorem OptimizeMode.ofName?_eq_some {t : Text} {mode : OptimizeMode} :
    ofName? t = some mode ↔ t = mode.name :=
  Text.find?_ofString_eq_some name_injective mem_all

theorem Except.exists_bind_eq_ok {ε α β : Type} {x : Except ε α} {f : α → Except ε β} :
    (∃ b, (x >>= f) = .ok b) ↔ ∃ a, x = .ok a ∧ ∃ b, f a = .ok b := by
  cases x with
  | ok a => simp [bind, Except.bind]
  | error e => simp [bind, Except.bind]

theorem Except.exists_map_eq_ok {ε α β : Type} {x : Except ε α} {f : α → β} :
    (∃ b, x.map f = .ok b) ↔ ∃ a, x = .ok a := by
  cases x with
  | ok a => exact iff_of_true ⟨f a, rfl⟩ ⟨a, rfl⟩
  | error e => exact iff_of_false (by simp [Except.map]) (by simp)

namespace Arguments

variable {s : Settings} {args : Arguments} {key : Text}

theorem bind_text?_eq_some {j : Option Json} {t : Text} :
    j.bind Json.text? = some t ↔ j = some (.str t) := by
  rw [Option.bind_eq_some_iff]
  simp [Json.text?_eq_some]

theorem requireText_eq_ok {t : Text} :
    args.requireText key = .ok t ↔ Json.find? args key = some (.str t) := by
  rw [requireText, ← bind_text?_eq_some]
  cases (Json.find? args key).bind Json.text? <;> simp

theorem exists_requireText : (∃ t, args.requireText key = .ok t) ↔
    Json.IsText (Json.find? args key) :=
  exists_congr fun _ => requireText_eq_ok

theorem exists_requireCode : (∃ t, args.requireCode s key = .ok t) ↔
    Tool.IsSource s (Json.find? args key) := by
  refine exists_congr fun t => ?_
  rw [requireCode, ← requireText_eq_ok]
  cases args.requireText key with
  | error fault => simp
  | ok code =>
    by_cases h : s.maxCodeSize < (code.length : Int)
    · simp only [h, if_true, reduceCtorEq, Except.ok.injEq, false_iff, not_and, not_le]
      rintro rfl
      exact h
    · simp only [h, if_false, Except.ok.injEq]
      refine ⟨fun heq => ⟨heq, ?_⟩, fun heq => heq.1⟩
      rw [← heq]
      exact not_lt.mp h

theorem exists_mapM_text? {items : List Json} :
    (∃ ts, items.mapM Json.text? = some ts) ↔ ∀ item ∈ items, ∃ t, item = .str t := by
  induction items with
  | nil => simp
  | cons item items ih =>
    rw [List.forall_mem_cons, ← ih, List.mapM_cons]
    cases item with
    | str t => cases items.mapM Json.text? <;> simp [Json.text?]
    | _ => simp [Json.text?]

theorem exists_textList : (∃ ts, args.textList key = .ok ts) ↔
    Json.IsListOf (fun item => ∃ t, item = .str t) (Json.find? args key) := by
  rw [textList]
  cases Json.find? args key with
  | none => exact iff_of_true ⟨_, rfl⟩ (Or.inl rfl)
  | some j =>
    cases j with
    | null => exact iff_of_true ⟨_, rfl⟩ (Or.inr (Or.inl rfl))
    | arr items =>
      simp only [Json.IsListOf, reduceCtorEq, Option.some.injEq, Json.arr.injEq, false_or,
        exists_eq_left', ← exists_mapM_text?]
      cases items.mapM Json.text? <;> simp
    | _ => exact iff_of_false (by simp) (by simp [Json.IsListOf])

theorem exists_package? {item : Json} : (∃ d, package? item = some d) ↔ item.HasName := by
  rw [package?, Json.hasName_iff]
  simp only [← bind_text?_eq_some, Option.map_eq_some_iff]
  constructor
  · rintro ⟨d, name, hname, -⟩
    exact ⟨name, hname⟩
  · rintro ⟨name, hname⟩
    exact ⟨_, name, hname, rfl⟩

theorem exists_entries {index : Nat} {items : List Json} :
    (∃ ds, entries key index items = .ok ds) ↔ ∀ item ∈ items, item.HasName := by
  induction items generalizing index with
  | nil => simp [entries]
  | cons item items ih =>
    rw [List.forall_mem_cons, entries, ← exists_package?]
    cases package? item with
    | none => simp
    | some d => simp [Except.exists_map_eq_ok, ih]

theorem exists_dependencyList : (∃ ds, args.dependencyList key = .ok ds) ↔
    Json.IsListOf Json.HasName (Json.find? args key) := by
  rw [dependencyList]
  cases Json.find? args key with
  | none => exact iff_of_true ⟨_, rfl⟩ (Or.inl rfl)
  | some j =>
    cases j with
    | null => exact iff_of_true ⟨_, rfl⟩ (Or.inr (Or.inl rfl))
    | arr items =>
      simp only [Json.IsListOf, reduceCtorEq, Option.some.injEq, Json.arr.injEq, false_or,
        exists_eq_left', ← @exists_entries key 0 items]
    | _ => exact iff_of_false (by simp) (by simp [Json.IsListOf])

/-- The mode of a build script, if arguments name a known one or none. -/
def requestedMode (args : Arguments) : Except ArgumentFault OptimizeMode :=
  match args.text? "optimizationLevel" with
  | none => .ok .usual
  | some name =>
    match OptimizeMode.ofName? name with
    | some mode => .ok mode
    | none => .error (.unknownMode name)

theorem buildOptions_eq : args.buildOptions s = args.requestedMode >>= fun mode =>
    args.textList "dependencies" >>= fun dependencies =>
      args.textList "buildSteps" >>= fun steps =>
        .ok {
          zigVersion := (args.text? "zigVersion").getD s.defaultZigVersion
          mode
          target := (args.text? "targetTriple").getD []
          dependencies
          steps } := by
  rw [buildOptions, requestedMode]
  cases args.text? "optimizationLevel" with
  | none => rfl
  | some name =>
    dsimp only
    cases OptimizeMode.ofName? name <;> rfl

theorem exists_requestedMode : (∃ mode, args.requestedMode = .ok mode) ↔
    ∀ level, Json.find? args "optimizationLevel" = some (.str level) →
      ∃ mode : OptimizeMode, level = mode.name := by
  simp only [← bind_text?_eq_some, requestedMode, text?]
  cases (Json.find? args "optimizationLevel").bind Json.text? with
  | none => simp
  | some name =>
    simp only [Option.some.injEq, forall_eq', ← OptimizeMode.ofName?_eq_some]
    cases OptimizeMode.ofName? name <;> simp

theorem exists_buildOptions : (∃ o, args.buildOptions s = .ok o) ↔
    (∀ level, Json.find? args "optimizationLevel" = some (.str level) →
      ∃ mode : OptimizeMode, level = mode.name) ∧
    Json.IsListOf (fun item => ∃ t, item = .str t) (Json.find? args "dependencies") ∧
    Json.IsListOf (fun item => ∃ t, item = .str t) (Json.find? args "buildSteps") := by
  rw [← exists_requestedMode, ← exists_textList, ← exists_textList, buildOptions_eq]
  simp [Except.exists_bind_eq_ok]

end Arguments

namespace Tool

variable {s : Settings} {tool : Tool} {args : Arguments}

/-- A tool answers exactly to the arguments that it accepts. -/
theorem exists_run : (∃ answer, tool.run s args = .ok answer) ↔ tool.Accepts s args := by
  cases tool with
  | optimizeCode => exact Except.exists_map_eq_ok.trans Arguments.exists_requireCode
  | estimateComputeUnits => exact Except.exists_map_eq_ok.trans Arguments.exists_requireCode
  | generateCode => exact Except.exists_map_eq_ok.trans Arguments.exists_requireText
  | getRecommendations => exact Except.exists_map_eq_ok.trans Arguments.exists_requireCode
  | generateBuildZig => exact Except.exists_map_eq_ok.trans Arguments.exists_buildOptions
  | analyzeBuildZig => exact Except.exists_map_eq_ok.trans Arguments.exists_requireCode
  | generateBuildZon => exact Except.exists_map_eq_ok.trans Arguments.exists_dependencyList

end Tool

/-! ## Arguments left out -/

theorem Json.text?_eq_none {j : Json} : j.text? = none ↔ ∀ t, j ≠ .str t := by
  cases j <;> simp [text?]

/-- A value that is no text counts as a missing text, whichever key is read. -/
theorem Arguments.text?_put {args : Arguments} {v : Json} (h : v.text? = none) (key key' : Text) :
    text? (Json.put key v args) key' = text? (Json.erase key args) key' := by
  by_cases hkey : key' = key
  · rw [text?, text?, hkey, Json.find?_put_self, Json.find?_erase_self, Option.bind_some, h]
    rfl
  · rw [text?, text?, Json.find?_put_eq_erase hkey]

namespace Tool

open Json (find? put erase)

variable {s : Settings} {tool : Tool} {args : Arguments} {p : Parameter} {v : Json} {code : Text}

/-- Whether a tool takes a value of an argument as if the argument were left out. -/
def TakesAsLeftOut (tool : Tool) (p : Parameter) (v : Json) : Prop :=
  tool.required? ≠ some p.name ∧
  match p.type with
  | .text _ => ∀ t, v ≠ .str t
  | .mode =>
    if tool = optimizeCode then ∀ mode : OptimizeMode, v ≠ .str mode.name else ∀ t, v ≠ .str t
  | .textList | .dependencyList => False

theorem value_chosenMode (h : ∀ mode : OptimizeMode, v ≠ .str mode.name) :
    (chosenMode (some v)).value = .usual := by
  have hnone : OptimizeMode.ofJson? v = none := by
    rw [OptimizeMode.ofJson?, Option.eq_none_iff_forall_ne_some]
    intro mode hmode
    obtain ⟨t, ht, hname⟩ := Option.bind_eq_some_iff.mp hmode
    rw [OptimizeMode.ofName?_eq_some.mp hname, Json.text?_eq_some] at ht
    exact h mode ht
  cases v with
  | null => rfl
  | _ => simp only [chosenMode, hnone]; rfl

/-- A mode that is none is as good as no mode, but for the warning. -/
theorem value_optimize (h : ∀ mode : OptimizeMode, v ≠ .str mode.name) :
    (optimize code (some v)).value = (optimize code none).value := by
  have hmode : (chosenMode (some v)).value = (chosenMode none).value := value_chosenMode h
  simp only [optimize, Traced.value_bind, hmode]

theorem value_run_put_mode (h : ∀ mode : OptimizeMode, v ≠ .str mode.name) :
    (optimizeCode.run s (put "optimizationLevel" v args)).map Traced.value =
      (optimizeCode.run s (erase "optimizationLevel" args)).map Traced.value := by
  have hcode : Arguments.requireCode s (put "optimizationLevel" v args) "code" =
      Arguments.requireCode s (erase "optimizationLevel" args) "code" := by
    simp (disch := decide) only [Arguments.requireCode, Arguments.requireText,
      Json.find?_put_eq_erase]
  simp only [run, hcode, Json.find?_put_self, Json.find?_erase_self]
  cases Arguments.requireCode s (erase "optimizationLevel" args) "code" with
  | error fault => rfl
  | ok code => exact congrArg Except.ok (value_optimize h)

/-- What a tool takes as left out is as good as left out. -/
theorem value_run_put (hp : p ∈ tool.parameters) (h : tool.TakesAsLeftOut p v) :
    (tool.run s (put p.name v args)).map Traced.value =
      (tool.run s (erase p.name args)).map Traced.value := by
  obtain ⟨hrequired, htype⟩ := h
  cases tool with
  | optimizeCode =>
    fin_cases hp
    · exact absurd rfl hrequired
    · exact value_run_put_mode htype
  | estimateComputeUnits =>
    fin_cases hp
    exact absurd rfl hrequired
  | generateCode =>
    fin_cases hp
    · exact absurd rfl hrequired
    · have htext : v.text? = none := Json.text?_eq_none.mpr htype
      simp (disch := decide) only [run, Arguments.requireText, Json.find?_put_eq_erase,
        Arguments.text?_put htext]
  | getRecommendations =>
    fin_cases hp
    · exact absurd rfl hrequired
    · have htext : v.text? = none := Json.text?_eq_none.mpr htype
      simp (disch := decide) only [run, Arguments.requireCode, Arguments.requireText,
        Json.find?_put_eq_erase, Arguments.text?_put htext]
  | generateBuildZig =>
    fin_cases hp
    case «3» | «4» => exact absurd htype not_false
    all_goals
      have htext : v.text? = none := Json.text?_eq_none.mpr htype
      simp (disch := decide) only [run, Arguments.buildOptions_eq, Arguments.requestedMode,
        Arguments.textList, Json.find?_put_eq_erase, Arguments.text?_put htext]
  | analyzeBuildZig =>
    fin_cases hp
    exact absurd rfl hrequired
  | generateBuildZon =>
    fin_cases hp
    case «0» => exact absurd htype not_false
    all_goals
      have htext : v.text? = none := Json.text?_eq_none.mpr htype
      simp (disch := decide) only [run, Arguments.project, Arguments.dependencyList,
        Json.find?_put_eq_erase, Arguments.text?_put htext]

/-! ## Entries of a list of packages -/

theorem package?_put_url (h : v.text? = none) (entry : List (Text × Json)) :
    Arguments.package? (.obj (put "url" v entry)) =
      Arguments.package? (.obj (erase "url" entry)) := by
  have hurl : Arguments.text? (put "url" v entry) "url" =
      Arguments.text? (erase "url" entry) "url" := Arguments.text?_put h _ _
  rw [Arguments.text?, Arguments.text?] at hurl
  simp (disch := decide) only [Arguments.package?, Json.member?, Json.find?_put_eq_erase, hurl]

theorem entries_congr {key : Text} {items items' : List Json} (index : Nat)
    (h : items.map Arguments.package? = items'.map Arguments.package?) :
    Arguments.entries key index items = Arguments.entries key index items' := by
  induction items generalizing items' index with
  | nil =>
    rw [List.map_nil, eq_comm, List.map_eq_nil_iff] at h
    rw [h]
  | cons item items ih =>
    cases items' with
    | nil => exact absurd h (List.cons_ne_nil _ _)
    | cons item' items' =>
      obtain ⟨hitem, hitems⟩ := List.cons.inj h
      rw [Arguments.entries, Arguments.entries, hitem, ih (index + 1) hitems]

/-- An address that is no text is as good as none. -/
theorem run_put_url (h : ∀ t, v ≠ .str t) (before after : List Json)
    (entry : List (Text × Json)) :
    generateBuildZon.run s
        (put "dependencies" (.arr (before ++ .obj (put "url" v entry) :: after)) args) =
      generateBuildZon.run s
        (put "dependencies" (.arr (before ++ .obj (erase "url" entry) :: after)) args) := by
  have hitems : (before ++ .obj (put "url" v entry) :: after).map Arguments.package? =
      (before ++ .obj (erase "url" entry) :: after).map Arguments.package? := by
    rw [List.map_append, List.map_cons, package?_put_url (Json.text?_eq_none.mpr h),
      List.map_append, List.map_cons]
  have hentries := @entries_congr "dependencies" _ _ 0 hitems
  simp (disch := decide) only [run, Arguments.dependencyList, Arguments.project, Arguments.text?,
    Json.find?_put_self, Json.find?_put_of_ne, hentries]

end Tool

end ZigAdvisor
