import ZigAdvisor.Build.Manifest
import ZigAdvisor.Proofs.Build.FreeText
import ZigAdvisor.Proofs.Text.Surrogates

/-!
# Texts that scripts and manifests take over

What a build script or a manifest takes over stands between fixed texts that are not empty, and a
variable is made of word characters. So no pair of surrogates arises where the texts are put
together.
-/

namespace ZigAdvisor

open Text

theorem CodePoint.not_isSurrogate_of_isWord {c : CodePoint} (h : c.isWord = true) :
    ¬ c.IsSurrogate := by
  have htable : ∀ r ∈ Text.wordTable, r.2 < 0xD800 ∨ 0xDFFF < r.1 := by decide +kernel
  obtain ⟨r, hr, hfirst, hlast⟩ := Ranges.mem_of_contains h
  rintro ⟨hlow, hhigh⟩
  have hskips := htable r hr
  omega

theorem Zig.plain_identifier (name : Text) : (identifier name).Plain := by
  have hlow : ¬ CodePoint.IsSurrogate '_' := CodePoint.not_isSurrogate_ofChar _
  have hwords : Plain (name.map fun c => if c.isWord then c else ('_' : CodePoint)) := by
    intro c hc
    obtain ⟨d, -, rfl⟩ := List.mem_map.mp hc
    split
    · next hword => exact CodePoint.not_isSurrogate_of_isWord hword
    · exact hlow
  rcases identifier_eq name with h | h
  · rw [h]
    exact hwords
  · rw [h]
    exact plain_cons.mpr ⟨hlow, hwords⟩

structure BuildOptions.IsUnpaired (o : BuildOptions) : Prop where
  zigVersion : o.zigVersion.Unpaired
  target : o.target.Unpaired
  dependencies : ∀ t ∈ o.dependencies, t.Unpaired
  steps : ∀ t ∈ o.steps, t.Unpaired

structure Dependency.IsUnpaired (d : Dependency) : Prop where
  name : d.name.Unpaired
  url : d.url.Unpaired
  hash : d.hash.Unpaired

namespace BuildScript

variable {frames : List Frame} {o : BuildOptions} {name : Text}

def Frame.IsUnpaired (f : Frame) : Prop := f.fixed.Plain ∧ f.free.Unpaired

theorem guarded_unframe (h : ∀ f ∈ frames, f.IsUnpaired) : Guarded (unframe frames) := by
  induction frames with
  | nil => exact guarded_nil
  | cons f frames ih =>
    rw [List.forall_mem_cons] at h
    have hne : f.fixed ≠ [] := by
      obtain ⟨c, hc, -⟩ := f.isFixed.front "Builder" (by decide)
      rintro hnil
      rw [hnil] at hc
      cases hc
    rw [unframe_cons]
    exact h.1.1.append_guarded hne (h.1.2.append (ih h.2))

theorem isUnpaired_headerFrames (h : o.IsUnpaired) : ∀ f ∈ headerFrames o, f.IsUnpaired := by
  cases hempty : o.target.isEmpty <;>
    simp [headerFrames, Frame.IsUnpaired, hempty, h.zigVersion, h.target]

theorem isUnpaired_targetFrames (htarget : name.Unpaired) :
    ∀ f ∈ targetFrames name, f.IsUnpaired := by
  cases hempty : name.isEmpty <;> simp [targetFrames, Frame.IsUnpaired, hempty, htarget]

theorem isUnpaired_optimizeFrames (mode : OptimizeMode) :
    ∀ f ∈ optimizeFrames mode, f.IsUnpaired := by
  cases mode <;> simp [optimizeFrames, Frame.IsUnpaired]

theorem isUnpaired_dependencyFrames (h : name.Unpaired) :
    ∀ f ∈ dependencyFrames name, f.IsUnpaired := by
  simp [dependencyFrames, Frame.IsUnpaired, h, (Zig.plain_identifier name).unpaired]

theorem isUnpaired_stepFrames (h : name.Unpaired) : ∀ f ∈ stepFrames name, f.IsUnpaired := by
  simp [stepFrames, Frame.IsUnpaired, h, (Zig.plain_identifier name).unpaired]

theorem isUnpaired_flatMap {names : List Text} {block : Text → List Frame}
    (hblock : ∀ name, name.Unpaired → ∀ f ∈ block name, f.IsUnpaired)
    (h : ∀ name ∈ names, name.Unpaired) : ∀ f ∈ names.flatMap block, f.IsUnpaired := by
  intro f hf
  obtain ⟨name, hname, hmem⟩ := List.mem_flatMap.mp hf
  exact hblock name (h name hname) f hmem

theorem isUnpaired_packageFrames (h : ∀ t ∈ o.packages, t.Unpaired) :
    ∀ f ∈ packageFrames o, f.IsUnpaired := by
  unfold packageFrames
  split
  · simp [Frame.IsUnpaired]
  · exact isUnpaired_flatMap (fun _ => isUnpaired_dependencyFrames) h

theorem isUnpaired_furtherFrames (h : ∀ t ∈ o.furtherSteps, t.Unpaired) :
    ∀ f ∈ furtherFrames o, f.IsUnpaired := by
  unfold furtherFrames
  split
  · simp
  · refine List.forall_mem_cons.mpr ⟨by simp [Frame.IsUnpaired], ?_⟩
    exact isUnpaired_flatMap (fun _ => isUnpaired_stepFrames) h

theorem isUnpaired_scriptFrames (h : o.IsUnpaired) : ∀ f ∈ scriptFrames o, f.IsUnpaired := by
  have hpackages : ∀ t ∈ o.packages, t.Unpaired :=
    fun t ht => h.dependencies t (BuildOptions.mem_packages.mp ht)
  have hfurther : ∀ t ∈ o.furtherSteps, t.Unpaired :=
    fun t ht => h.steps t (BuildOptions.mem_furtherSteps.mp ht).1
  have hfixed (fixed : Text) (isFixed : IsFixed fixed) (h : fixed.Plain) :
      Frame.IsUnpaired ⟨fixed, [], isFixed⟩ := ⟨h, unpaired_nil⟩
  simp only [scriptFrames, List.forall_mem_append, List.forall_mem_cons]
  refine ⟨isUnpaired_headerFrames h, hfixed _ _ (by simp),
    isUnpaired_targetFrames h.target, hfixed _ _ (by simp),
    isUnpaired_optimizeFrames o.mode, hfixed _ _ (by simp), isUnpaired_packageFrames hpackages,
    hfixed _ _ (by simp), hfixed _ _ (by simp [runAndTest]), isUnpaired_furtherFrames hfurther,
    hfixed _ _ (by simp), by simp⟩

theorem unpaired_generate (h : o.IsUnpaired) : (generate o).Unpaired := by
  rw [← unframe_scriptFrames]
  exact (guarded_unframe (isUnpaired_scriptFrames h)).unpaired

end BuildScript

namespace Manifest

variable {d : Dependency} {p : Project} {dependencies : List Dependency}

theorem unpaired_field {name : Text} (h : name.Unpaired) : (Zig.field name).Unpaired := by
  unfold Zig.field
  split
  · exact unpaired_constant _ (h.append guarded_nil)
  · exact unpaired_constant _ (h.append ((guarded_ofString _).append guarded_nil))

theorem unpaired_resolvedUrl (h : d.IsUnpaired) : d.resolvedUrl.Unpaired := by
  unfold Dependency.resolvedUrl
  split
  · exact unpaired_constant _ (h.name.append guarded_nil)
  · exact h.url

theorem guarded_entry (h : d.IsUnpaired) : Guarded (entry d) := by
  simp only [entry, concat_cons, concat_nil]
  refine guarded_framed _ (by decide) (unpaired_field h.name) ((guarded_ofString _).append ?_)
  refine guarded_framed _ (by decide) (unpaired_resolvedUrl h) ((guarded_ofString _).append ?_)
  exact guarded_framed _ (by decide) h.hash
    ((guarded_ofString _).append ((guarded_ofString _).append guarded_nil))

theorem unpaired_generate (hname : p.name.Unpaired) (hversion : p.version.Unpaired)
    (hminimum : p.minimumZigVersion.Unpaired)
    (h : ∀ d ∈ dependencies, d.IsUnpaired) :
    (generate p dependencies).Unpaired := by
  have hentries : Guarded (dependencies.flatMap entry) := by
    rw [List.flatMap_def]
    refine guarded_concat ?_
    rw [List.forall_mem_map]
    exact fun d hd => guarded_entry (h d hd)
  have hend : Guarded (concat [
      "    \x7d,\n", "\n", "    .paths = .\x7b\n", "        \"build.zig\",\n",
      "        \"build.zig.zon\",\n", "        \"src\",\n", "    \x7d,\n", "\x7d\n"]) := by
    apply Plain.guarded
    simp
  simp only [generate, concat_cons]
  refine ((guarded_ofString _).append ?_).unpaired
  refine guarded_framed _ (by decide) hname ((guarded_ofString _).append ?_)
  refine guarded_framed _ (by decide) hversion ((guarded_ofString _).append ?_)
  refine guarded_framed _ (by decide) hminimum ((guarded_ofString _).append ?_)
  exact (guarded_ofString _).append ((guarded_ofString _).append (hentries.append hend))

end Manifest

end ZigAdvisor
