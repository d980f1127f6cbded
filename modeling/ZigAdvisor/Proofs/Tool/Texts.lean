import ZigAdvisor.Proofs.Build.Echoed
import ZigAdvisor.Proofs.Json.Readable
import ZigAdvisor.Proofs.Review.Messages
import ZigAdvisor.Proofs.Rpc.Records
import ZigAdvisor.Proofs.Service.Outcomes

/-!
# Answers of tools hold no pairs of surrogates

A tool puts the texts of its arguments between texts that are known beforehand, or answers with
nothing but known texts. So where the arguments hold no pairs of surrogates, neither does the
answer.
-/

namespace ZigAdvisor

open Text

/-! ## Estimates -/

@[simp] theorem Metrics.plain_line (m : Metrics) (label name remark : String) :
    (m.line label name remark).Plain := by
  simp [line]

theorem Note.plain_select {notes : List Note} {m : Metrics} : ∀ t ∈ select notes m, t.Plain :=
  forall_plain_map _ _

theorem Text.plain_withNotes {lines notes : List Text} {heading : Text}
    (hlines : ∀ t ∈ lines, t.Plain) (hheading : heading.Plain) (hnotes : ∀ t ∈ notes, t.Plain) :
    (withNotes lines heading notes).Plain := by
  simp [withNotes, plain_bulletList hlines, hheading, plain_bulletList hnotes]

theorem MemoryUsage.plain_estimate (code : Text) : (estimate code).Plain :=
  plain_withNotes (by simp [lines]) (plain_ofString _) Note.plain_select

theorem RunningTime.plain_estimate (code : Text) : (estimate code).Plain :=
  plain_withNotes (by simp [lines]) (plain_ofString _) Note.plain_select

theorem Allocation.plain_strategy (m : Metrics) : (strategy m).Plain := by
  unfold strategy
  split
  · exact plain_ofString _
  · simp
  · have hnames (several : List (String × String)) :
        Plain (join ", " (several.map fun kind => ofString kind.2)) :=
      plain_join (plain_ofString _) (forall_plain_map _ _)
    simp [hnames]

theorem Allocation.plain_estimate (code : Text) : (estimate code).Plain :=
  plain_withNotes (by simp [lines, plain_strategy]) (plain_ofString _) Note.plain_select

/-! ## Source files -/

theorem Template.plain_declaration (t : Template) (errors : Bool) :
    (t.declaration errors).Plain := by
  cases t <;> simp [declaration, structDeclaration, enumDeclaration, unionDeclaration, asInteger,
    functionDeclaration, ifErrors]

theorem Template.plain_tests (t : Template) (errors : Bool) : (t.tests errors).Plain := by
  cases t <;> simp [tests, basicTest, edgeTest, structSetup, ifErrors]

@[simp] theorem Text.forall_mem_provided {P : Text → Prop} {condition : Bool} {piece : Text} :
    (∀ t ∈ provided condition piece, P t) ↔ (condition = true → P piece) := by
  cases condition <;> simp [provided]

theorem SourceFile.plain_generate (r : CodeRequest) : (generate r).Plain := by
  refine plain_join (plain_ofString _) ?_
  simp only [parts, List.flatten_cons, List.flatten_nil, List.forall_mem_append,
    forall_mem_provided, List.forall_mem_cons]
  simp [header, imports, errorSet, performanceNote, Template.plain_declaration,
    Template.plain_tests]

/-! ## Answers -/

theorem Traced.value_mapM {α β : Type} (f : α → Traced β) (items : List α) :
    (items.mapM f).value = items.map fun a => (f a).value := by
  induction items with
  | nil => rfl
  | cons a items ih =>
    rw [List.mapM_cons]
    simp only [value_bind, value_pure, ih, List.map_cons]

theorem Classifier.value_reviewTraced (c : Classifier) (code : Text) :
    (c.reviewTraced code).value = c.review code := rfl

theorem Topic.plain_recommendations (prompt : Text) : ∀ t ∈ recommendations prompt, t.Plain := by
  unfold recommendations
  split
  · exact List.forall_mem_singleton.mpr (plain_ofString _)
  · exact forall_plain_map _ _

namespace Tool

variable {code prompt document : Text} {notes : List Text}

theorem plain_notes (h : ∀ t ∈ notes, t.Plain) (heading : String) (hdocument : document.Plain) :
    (withNotes heading document notes).Plain := by
  simp [withNotes, hdocument, plain_bulletList h]

theorem unpaired_notes (h : ∀ t ∈ notes, t.Unpaired) (heading : String)
    (hdocument : document.Unpaired) : (withNotes heading document notes).Unpaired := by
  have hnotes : Guarded (ofString "\nNotes:\n" ++ (bulletList notes ++ [])) :=
    (guarded_ofString _).append ((guarded_bulletList h).append guarded_nil)
  simp only [withNotes, concat_cons, concat_nil]
  exact unpaired_constant _ (unpaired_constant _ (hdocument.append hnotes))

theorem plain_optimize (code : Text) (requested : Option Json) :
    (optimize code requested).value.Plain := by
  simp only [optimize, Traced.value_bind, Traced.value_pure, Classifier.value_reviewTraced]
  generalize (chosenMode requested).value = mode
  have hfindings := Classifier.isPlain_optimization.review code
  have hadvice : Plain (bulletList (mode.advice.map ofString)) :=
    plain_bulletList (forall_plain_map _ _)
  have htips : Plain (bulletList mode.buildTips) :=
    plain_bulletList (by simp [OptimizeMode.buildTips])
  have hsections : Plain (sections [
      ("General Code Optimizations", Optimization.classifier.review code),
      (concat ["Build Configuration for ", mode.name], bulletList (mode.advice.map ofString)),
      ("Advanced Build Tips", bulletList mode.buildTips)]) :=
    plain_sections (by simp [hfindings, hadvice, htips])
  simpa using hsections

theorem plain_estimate (code : Text) : (estimate code).Plain := by
  have hsections : Plain (sections [
      ("Memory Usage", MemoryUsage.estimate code),
      ("Time Complexity", RunningTime.estimate code),
      ("Allocation Analysis", Allocation.estimate code)]) :=
    plain_sections (by simp [MemoryUsage.plain_estimate, RunningTime.plain_estimate,
      Allocation.plain_estimate])
  simp [estimate, hsections]

theorem plain_generate (prompt context : Text) : (generate prompt context).Plain := by
  refine plain_notes ?_ _ (SourceFile.plain_generate _)
  simp only [generationNotes, List.flatten_cons, List.flatten_nil, List.forall_mem_append,
    forall_mem_provided, List.forall_mem_cons]
  simp

theorem unpaired_recommend (code : Text) (hprompt : prompt.Unpaired) :
    (recommend Classifier.registry code prompt).value.Unpaired := by
  have hreviews : ∀ p ∈ Classifier.registry.map fun c =>
      (ofString c.title, c.review code), Guarded p.1 ∧ p.2.Unpaired := by
    rw [List.forall_mem_map]
    exact fun c hc => ⟨guarded_ofString _,
      ((Classifier.isPlain_of_mem_registry hc).review code).unpaired⟩
  have hspecific : ∀ p ∈ promptSection prompt, Guarded p.1 ∧ p.2.Unpaired := by
    unfold promptSection
    split
    · simp
    · rw [List.forall_mem_singleton]
      exact ⟨guarded_framed _ (by decide) hprompt ((guarded_ofString _).append guarded_nil),
        (plain_bulletList (Topic.plain_recommendations prompt)).unpaired⟩
  simp only [recommend, Traced.value_bind, Traced.value_pure, Traced.value_mapM,
    Classifier.value_reviewTraced, concat_cons, concat_nil]
  refine unpaired_constant _ ?_
  rw [List.append_nil]
  exact unpaired_sections (List.forall_mem_append.mpr ⟨hreviews, hspecific⟩)

theorem unpaired_buildScript {o : BuildOptions} (h : o.IsUnpaired) : (buildScript o).Unpaired := by
  refine unpaired_notes ?_ _ (BuildScript.unpaired_generate h)
  have hdefault : Unpaired (concat ["Default target: ", o.target, " (override with -Dtarget)"]) :=
    unpaired_constant _ (h.target.append ((guarded_ofString _).append guarded_nil))
  simp only [scriptNotes, List.flatten_cons, List.flatten_nil, List.forall_mem_append,
    forall_mem_provided, List.forall_mem_cons]
  refine ⟨⟨unpaired_ofString _, Plain.unpaired (by simp), unpaired_ofString _, by simp⟩,
    fun _ => hdefault, fun _ => unpaired_ofString _, by simp⟩

theorem unpaired_manifest {p : Project} {dependencies : List Dependency} (hname : p.name.Unpaired)
    (hversion : p.version.Unpaired) (hminimum : p.minimumZigVersion.Unpaired)
    (h : ∀ d ∈ dependencies, d.IsUnpaired) : (manifest p dependencies).Unpaired := by
  refine unpaired_notes ?_ _ (Manifest.unpaired_generate hname hversion hminimum h)
  simp [manifestNotes]

theorem plain_analyzeScript (script : Text) : (analyzeScript script).Plain := by
  have hrecommendations : ∀ t ∈ BuildScript.recommendations script, t.Plain := by
    unfold BuildScript.recommendations
    split
    · exact List.forall_mem_singleton.mpr (plain_ofString _)
    · exact forall_plain_map _ _
  simp [analyzeScript, plain_bulletList hrecommendations]

end Tool

/-! ## Arguments -/

def ArgumentFault.IsUnpaired (fault : ArgumentFault) : Prop := fault.message.Unpaired

theorem ArgumentFault.unpaired_unknownMode {name : Text} (h : name.Unpaired) :
    (ArgumentFault.unknownMode name).IsUnpaired := by
  have hmodes : Plain (join ", " (OptimizeMode.all.map fun mode => ofString mode.name)) :=
    plain_join (plain_ofString _) (forall_plain_map _ _)
  have hend : Guarded (ofString "' (expected one of " ++
      (join ", " (OptimizeMode.all.map fun mode => ofString mode.name) ++ (ofString ")" ++ []))) :=
    (guarded_ofString _).append (hmodes.guarded.append ((guarded_ofString _).append guarded_nil))
  exact unpaired_constant _ (h.append hend)

namespace Arguments

open Json (Readable)

variable {P : Double → Prop} {depth : ℕ} {args : Arguments} {t : Text}

theorem unpaired_member? {item : Json} {key : Text} (h : Readable P depth item)
    (ht : (item.member? key).bind Json.text? = some t) : t.Unpaired := by
  obtain ⟨value, hvalue, htext⟩ := Option.bind_eq_some_iff.mp ht
  rw [Json.text?_eq_some.mp htext] at hvalue
  exact (h.of_member? hvalue).unpaired

theorem unpaired_text? (h : Readable P depth (.obj args)) {key : Text}
    (ht : args.text? key = some t) : t.Unpaired :=
  unpaired_member? h ht

theorem unpaired_text?_getD (h : Readable P depth (.obj args)) (key : Text) {default : Text}
    (hdefault : default.Unpaired) : ((args.text? key).getD default).Unpaired := by
  cases ht : args.text? key with
  | none => exact hdefault
  | some t => exact unpaired_text? h ht

theorem unpaired_requireText (h : Readable P depth (.obj args)) (key : String) :
    Except.All Unpaired ArgumentFault.IsUnpaired (args.requireText key) := by
  unfold requireText
  split
  · next t ht => exact unpaired_text? h ht
  · exact Plain.unpaired (by simp [ArgumentFault.message])

theorem unpaired_requireCode (s : Settings) (h : Readable P depth (.obj args)) (key : String) :
    Except.All Unpaired ArgumentFault.IsUnpaired (args.requireCode s key) := by
  have hcode := unpaired_requireText h key
  unfold requireCode
  split
  · next fault hfault =>
    rw [hfault] at hcode
    exact hcode
  · next code htext =>
    rw [htext] at hcode
    split
    · exact Plain.unpaired (by simp [ArgumentFault.message])
    · exact hcode

theorem mem_of_mapM_text? {items : List Json} {texts : List Text}
    (h : items.mapM Json.text? = some texts) : ∀ t ∈ texts, Json.str t ∈ items := by
  induction items generalizing texts with
  | nil =>
    cases h
    simp
  | cons item items ih =>
    rw [List.mapM_cons] at h
    obtain ⟨t, ht, hrest⟩ := Option.bind_eq_some_iff.mp h
    obtain ⟨rest, hmap, hcons⟩ := Option.bind_eq_some_iff.mp hrest
    cases hcons
    rw [Json.text?_eq_some.mp ht, List.forall_mem_cons]
    exact ⟨List.mem_cons_self, fun u hu => List.mem_cons_of_mem _ (ih hmap u hu)⟩

theorem unpaired_textList (h : Readable P depth (.obj args)) (key : String) :
    Except.All (fun ts => ∀ t ∈ ts, t.Unpaired) ArgumentFault.IsUnpaired (args.textList key) := by
  have hfault : (ArgumentFault.noTextList key).IsUnpaired :=
    Plain.unpaired (by simp [ArgumentFault.message])
  unfold textList
  split
  · simp [Except.All]
  · simp [Except.All]
  · next items hitems =>
    split
    · next texts htexts =>
      exact fun t ht => ((h.of_find? hitems).of_mem_items (mem_of_mapM_text? htexts t ht)).unpaired
    · exact hfault
  · exact hfault

theorem isUnpaired_of_entry {item : Json} {d : Dependency} (h : Readable P depth item)
    (hd : package? item = some d) : d.IsUnpaired := by
  obtain ⟨name, hname, rfl⟩ := Option.map_eq_some_iff.mp hd
  have hhash : Dependency.unknownHash.Plain := by decide
  refine ⟨unpaired_member? h hname, ?_, hhash.unpaired⟩
  · cases hurl : (item.member? "url").bind Json.text? with
    | none => exact unpaired_nil
    | some url => exact unpaired_member? h hurl

theorem isUnpaired_entries {items : List Json} (h : ∀ item ∈ items, Readable P depth item)
    (key : String) (index : ℕ) : Except.All (fun ds => ∀ d ∈ ds, d.IsUnpaired)
      ArgumentFault.IsUnpaired (entries key index items) := by
  induction items generalizing index with
  | nil => simp [entries, Except.All]
  | cons item items ih =>
    rw [List.forall_mem_cons] at h
    rw [entries]
    split
    · exact Plain.unpaired (by simp [ArgumentFault.message])
    · next d hd =>
      refine (ih h.2 (index + 1)).map fun ds hds => ?_
      exact List.forall_mem_cons.mpr ⟨isUnpaired_of_entry h.1 hd, hds⟩

theorem isUnpaired_dependencyList (h : Readable P depth (.obj args)) (key : String) :
    Except.All (fun ds => ∀ d ∈ ds, d.IsUnpaired) ArgumentFault.IsUnpaired
      (args.dependencyList key) := by
  have hfault : (ArgumentFault.noObjectList key).IsUnpaired :=
    Plain.unpaired (by simp [ArgumentFault.message])
  unfold dependencyList
  split
  · simp [Except.All]
  · simp [Except.All]
  · next items hitems =>
    exact isUnpaired_entries (fun item hitem => (h.of_find? hitems).of_mem_items hitem) key 0
  · exact hfault

theorem isUnpaired_buildOptions {s : Settings} (hs : s.defaultZigVersion.Unpaired)
    (h : Readable P depth (.obj args)) :
    Except.All (fun o => o.IsUnpaired) ArgumentFault.IsUnpaired (args.buildOptions s) := by
  have hlists (mode : OptimizeMode) : Except.All (fun o : BuildOptions => o.IsUnpaired)
      ArgumentFault.IsUnpaired (do
        let dependencies ← args.textList "dependencies"
        let steps ← args.textList "buildSteps"
        return {
          zigVersion := (args.text? "zigVersion").getD s.defaultZigVersion
          mode
          target := (args.text? "targetTriple").getD []
          dependencies := dependencies
          steps := steps }) :=
    (unpaired_textList h _).bind fun dependencies hdependencies =>
      (unpaired_textList h _).bind fun steps hsteps =>
        ⟨unpaired_text?_getD h _ hs, unpaired_text?_getD h _ unpaired_nil, hdependencies, hsteps⟩
  unfold buildOptions
  dsimp only
  split
  · exact hlists _
  · next name hname =>
    split
    · exact hlists _
    · exact ArgumentFault.unpaired_unknownMode (unpaired_text? h hname)

end Arguments

/-! ## Tools -/

theorem Tool.unpaired_run {s : Settings} (hs : s.defaultZigVersion.Unpaired) {P : Double → Prop}
    {depth : ℕ} {args : Arguments} (h : Json.Readable P depth (.obj args)) (tool : Tool) :
    Except.All (fun answer => answer.value.Unpaired) ArgumentFault.IsUnpaired
      (tool.run s args) := by
  cases tool with
  | optimizeCode =>
    exact (Arguments.unpaired_requireCode s h _).map fun code _ => (plain_optimize code _).unpaired
  | estimateComputeUnits =>
    exact (Arguments.unpaired_requireCode s h _).map fun code _ => (plain_estimate code).unpaired
  | generateCode =>
    exact (Arguments.unpaired_requireText h _).map fun prompt _ =>
      (plain_generate prompt _).unpaired
  | getRecommendations =>
    exact (Arguments.unpaired_requireCode s h _).map fun code _ =>
      unpaired_recommend code (Arguments.unpaired_text?_getD h _ unpaired_nil)
  | generateBuildZig =>
    exact (Arguments.isUnpaired_buildOptions hs h).map fun _ ho => unpaired_buildScript ho
  | analyzeBuildZig =>
    exact (Arguments.unpaired_requireCode s h _).map fun script _ =>
      (plain_analyzeScript script).unpaired
  | generateBuildZon =>
    exact (Arguments.isUnpaired_dependencyList h _).map fun ds hds =>
      unpaired_manifest (Arguments.unpaired_text?_getD h _ (unpaired_ofString _))
        (Arguments.unpaired_text?_getD h _ (unpaired_ofString _)) (unpaired_ofString _) hds

end ZigAdvisor
