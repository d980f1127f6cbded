import ZigAdvisor.Proofs.Build.Frames

/-!
# Free text of a build script

A text that neither the name of a mode nor the low lines of an identifier can bring into a script
is in free text exactly if the options mention it (`Foreign.exists_scriptFrames`). The names of the
old interface are such texts, and so are single parentheses and braces.
-/

namespace ZigAdvisor

open Text

namespace BuildOptions

def texts (o : BuildOptions) : List Text :=
  o.zigVersion :: (provided (!o.target.isEmpty) o.target ++ (o.dependencies ++ o.furtherSteps))

def Mentions (o : BuildOptions) (w : Text) : Prop := ∃ t ∈ o.texts, w <:+: t

instance (o : BuildOptions) (w : Text) : Decidable (o.Mentions w) :=
  decidable_of_iff (∃ t ∈ o.texts, t.contains w) (by simp only [contains_iff, Mentions])

end BuildOptions

theorem Zig.identifier_eq (name : Text) :
    let words := name.map fun c => if c.isWord then c else ('_' : CodePoint)
    identifier name = words ∨ identifier name = ('_' : CodePoint) :: words := by
  unfold identifier
  split
  · case _ hname => exact Or.inr (congrArg _ hname.symm)
  · case _ c rest hname =>
    rw [hname]
    split
    · exact Or.inr rfl
    · exact Or.inl rfl

/-- What has no low lines is made of word characters only. -/
theorem Zig.map_eq_of_not_mem {t : Text}
    (h : ('_' : CodePoint) ∉ t.map fun c => if c.isWord then c else ('_' : CodePoint)) :
    (t.map fun c => if c.isWord then c else ('_' : CodePoint)) = t := by
  have hsame : ∀ c ∈ t, (if c.isWord then c else ('_' : CodePoint)) = c := by
    intro c hc
    by_cases hword : c.isWord = true
    · exact if_pos hword
    · exact (h (List.mem_map.mpr ⟨c, hc, if_neg hword⟩)).elim
  rw [List.map_congr_left hsame, List.map_id']

namespace BuildScript

/-- A text that neither a mode's name nor the low lines of an identifier bring into a script. -/
structure Foreign (w : Text) : Prop where
  ne_nil : w ≠ []
  plain : ('_' : CodePoint) ∉ w
  mode : ∀ mode ∈ OptimizeMode.all, ¬ (ofString mode.name).contains w

instance (w : Text) : Decidable (Foreign w) :=
  decidable_of_iff (w ≠ [] ∧ ('_' : CodePoint) ∉ w ∧
    ∀ mode ∈ OptimizeMode.all, ¬ (ofString mode.name).contains w)
    ⟨fun ⟨ne_nil, plain, mode⟩ => ⟨ne_nil, plain, mode⟩,
      fun ⟨ne_nil, plain, mode⟩ => ⟨ne_nil, plain, mode⟩⟩

theorem foreign_oldNames : ∀ w ∈ oldNames, Foreign (ofString w) := by
  decide

variable {w name : Text} {o : BuildOptions}

namespace Foreign

theorem not_mode (hw : Foreign w) (mode : OptimizeMode) : ¬ w <:+: ofString mode.name := by
  rw [← contains_iff]
  exact hw.mode mode mode.mem_all

/-- An identifier has a foreign text only from the name that it is made from. -/
theorem infix_identifier (hw : Foreign w) (h : w <:+: Zig.identifier name) : w <:+: name := by
  have hwords : w <:+: name.map fun c => if c.isWord then c else ('_' : CodePoint) := by
    rcases Zig.identifier_eq name with hname | hname
    · rwa [hname] at h
    · rw [hname] at h
      refine (List.infix_cons_iff.mp h).resolve_left fun hfront => ?_
      obtain ⟨c, w, rfl⟩ := List.exists_cons_of_ne_nil hw.ne_nil
      exact hw.plain (by simp [(List.cons_prefix_cons.mp hfront).1])
  obtain ⟨t, ht, hwt⟩ := List.infix_map_iff.mp hwords
  have hplain := hw.plain
  rw [hwt] at hplain
  rwa [hwt, Zig.map_eq_of_not_mem hplain]

theorem exists_flatMap {block : Text → List Frame}
    (h : ∀ name, (∃ f ∈ block name, w <:+: f.free) ↔ w <:+: name) {names : List Text} :
    (∃ f ∈ names.flatMap block, w <:+: f.free) ↔ ∃ t ∈ names, w <:+: t := by
  induction names with
  | nil => simp
  | cons name names ih =>
    simp only [List.flatMap_cons, List.mem_append, or_and_right, exists_or, h, ih,
      List.exists_mem_cons_iff]

theorem exists_headerFrames (hw : Foreign w) : (∃ f ∈ headerFrames o, w <:+: f.free) ↔
    w <:+: o.zigVersion ∨ ∃ t ∈ provided (!o.target.isEmpty) o.target, w <:+: t := by
  cases htarget : o.target <;> simp [headerFrames, provided, htarget, hw.ne_nil, hw.not_mode]

theorem exists_targetFrames (hw : Foreign w) : (∃ f ∈ targetFrames name, w <:+: f.free) ↔
    ∃ t ∈ provided (!name.isEmpty) name, w <:+: t := by
  cases name <;> simp [targetFrames, provided, hw.ne_nil]

theorem not_optimizeFrames (hw : Foreign w) {mode : OptimizeMode} :
    ¬ ∃ f ∈ optimizeFrames mode, w <:+: f.free := by
  cases mode <;> simp [optimizeFrames, hw.ne_nil, hw.not_mode]

theorem exists_dependencyFrames (hw : Foreign w) : (∃ f ∈ dependencyFrames name, w <:+: f.free) ↔
    w <:+: name := by
  have hident : w <:+: Zig.identifier name → w <:+: name := hw.infix_identifier
  simp only [dependencyFrames, List.exists_mem_cons_iff, List.not_mem_nil, false_and, exists_false,
    List.infix_nil, hw.ne_nil]
  tauto

theorem exists_stepFrames (hw : Foreign w) : (∃ f ∈ stepFrames name, w <:+: f.free) ↔
    w <:+: name := by
  have hident : w <:+: Zig.identifier name → w <:+: name := hw.infix_identifier
  simp only [stepFrames, List.exists_mem_cons_iff, List.not_mem_nil, false_and, exists_false,
    List.infix_nil, hw.ne_nil]
  tauto

theorem exists_packageFrames (hw : Foreign w) : (∃ f ∈ packageFrames o, w <:+: f.free) ↔
    ∃ t ∈ o.dependencies, w <:+: t := by
  simp only [← BuildOptions.mem_packages]
  unfold packageFrames
  cases o.packages with
  | nil => simp [hw.ne_nil]
  | cons t packages =>
    rw [if_neg (List.cons_ne_nil t packages)]
    exact exists_flatMap fun name => hw.exists_dependencyFrames

theorem exists_furtherFrames (hw : Foreign w) : (∃ f ∈ furtherFrames o, w <:+: f.free) ↔
    ∃ t ∈ o.furtherSteps, w <:+: t := by
  unfold furtherFrames
  cases o.furtherSteps with
  | nil => simp
  | cons t steps =>
    rw [if_neg (List.cons_ne_nil t steps), List.exists_mem_cons_iff,
      exists_flatMap fun name => hw.exists_stepFrames]
    exact or_iff_right fun h => hw.ne_nil (List.infix_nil.mp h)

theorem exists_scriptFrames (hw : Foreign w) :
    (∃ f ∈ scriptFrames o, w <:+: f.free) ↔ o.Mentions w := by
  have hnil : ¬ w <:+: [] := fun h => hw.ne_nil (List.infix_nil.mp h)
  simp only [scriptFrames, BuildOptions.Mentions, BuildOptions.texts, List.exists_mem_cons_iff,
    List.mem_append, or_and_right, exists_or, hw.exists_headerFrames, hw.exists_targetFrames,
    hw.not_optimizeFrames, hw.exists_packageFrames, hw.exists_furtherFrames, openingFrame,
    modeFrame, executableFrame, installFrame, runAndTestFrame, hnil, List.not_mem_nil, false_and,
    exists_false, or_false, false_or, or_assoc, or_self_left]

end Foreign

/-- A script has a name of the old interface exactly if its options mention the name. -/
theorem contains_generate {w : String} (hw : w ∈ oldNames) :
    (generate o).contains w ↔ o.Mentions w := by
  rw [contains_iff, ← unframe_scriptFrames, infix_unframe hw,
    (foreign_oldNames w hw).exists_scriptFrames]

/-- What no option mentions is in no free text. -/
theorem not_mem_free {c : CodePoint} (hc : Foreign [c]) (h : ¬ o.Mentions [c]) :
    ∀ f ∈ scriptFrames o, c ∉ f.free := by
  intro f hf hmem
  have hinfix : [c] <:+: f.free := (List.singleton_infix_iff c f.free).mpr hmem
  exact h (hc.exists_scriptFrames.mp ⟨f, hf, hinfix⟩)

end BuildScript

end ZigAdvisor
