import ZigAdvisor.Build.Issue
import ZigAdvisor.Build.Script
import ZigAdvisor.Proofs.Text.Occurrence

/-!
# Frames of fixed and free text

A generated script is a list of frames, each some fixed text with free text behind it. The fixed
text begins and ends with code points that no name of the old interface has, so such a name occurs
in the script exactly if it occurs in free text (`infix_unframe`). At each parenthesis and brace of
the fixed text what stands around it rules out a match of the other checks, so these find nothing
unless free text has a parenthesis or a brace itself.

A build script is cut where the text of its options begins and ends. Its free text is the release,
the target, the names of packages and steps, the names of variables made from these, and the name of
the optimize mode. Put together again, the frames are the script (`unframe_scriptFrames`).
-/

namespace ZigAdvisor.BuildScript

open Text Pattern

def oldNames : List String := ["Builder", "setTarget", "setBuildMode"]

/-- What stands around a parenthesis or brace rules out a match of the checks by patterns. What
stands before it is given backwards. -/
def Harmless (front : Text) (c : CodePoint) (rest : Text) : Prop :=
  (c = '(' → (¬ Meets (ofString "@import").reverse front ∨ ofString "\"std\"" <+: rest) ∧
    ¬ Meets (ofString ".addModule").reverse (front.dropWhile CodePoint.isBlank)) ∧
  (c = '{' → ¬ Meets (ofString ".path") (rest.dropWhile CodePoint.isBlank))

instance (front : Text) (c : CodePoint) (rest : Text) : Decidable (Harmless front c rest) :=
  inferInstanceAs (Decidable (_ ∧ _))

/-- Fixed text of a script, in which nothing is out of date whatever stands around it. -/
structure IsFixed (t : Text) : Prop where
  front : ∀ w ∈ oldNames, ∃ c ∈ t.head?, c ∉ ofString w
  back : ∀ w ∈ oldNames, ∃ c ∈ t.getLast?, c ∉ ofString w
  plain : ∀ w ∈ oldNames, ¬ t.contains w
  harmless : EachPlace Harmless [] t

instance (t : Text) : Decidable (IsFixed t) :=
  decidable_of_iff ((∀ w ∈ oldNames, ∃ c ∈ t.head?, c ∉ ofString w) ∧
    (∀ w ∈ oldNames, ∃ c ∈ t.getLast?, c ∉ ofString w) ∧
    (∀ w ∈ oldNames, ¬ t.contains w) ∧ EachPlace Harmless [] t)
    ⟨fun ⟨front, back, plain, harmless⟩ => ⟨front, back, plain, harmless⟩,
      fun ⟨front, back, plain, harmless⟩ => ⟨front, back, plain, harmless⟩⟩

structure Frame where
  fixed : Text
  free : Text
  isFixed : IsFixed fixed := by decide +kernel

def unframe (frames : List Frame) : Text := frames.flatMap fun f => f.fixed ++ f.free

variable {frames : List Frame} {a s : Text} {c : CodePoint}

@[simp] theorem unframe_nil : unframe [] = [] := rfl

@[simp] theorem unframe_cons (f : Frame) :
    unframe (f :: frames) = f.fixed ++ (f.free ++ unframe frames) := by
  rw [unframe, List.flatMap_cons, List.append_assoc]
  rfl

theorem unframe_append (more : List Frame) :
    unframe (frames ++ more) = unframe frames ++ unframe more := List.flatMap_append

/-- A name of the old interface occurs exactly if it occurs in free text. -/
theorem infix_unframe {w : String} (hw : w ∈ oldNames) :
    ofString w <:+: unframe frames ↔ ∃ f ∈ frames, ofString w <:+: f.free := by
  have hne : ∀ w ∈ oldNames, ofString w ≠ [] := by decide
  induction frames with
  | nil => simp [hne w hw]
  | cons f frames ih =>
    obtain ⟨c, hlast, hc⟩ := f.isFixed.back w hw
    have hplain : ¬ ofString w <:+: f.fixed := fun h => f.isFixed.plain w hw (contains_iff.mpr h)
    have hfree : ofString w <:+: f.free ++ unframe frames ↔
        ofString w <:+: f.free ∨ ofString w <:+: unframe frames := by
      cases frames with
      | nil =>
        rw [unframe_nil, List.append_nil, or_iff_left]
        exact fun h => hne w hw (List.infix_nil.mp h)
      | cons g frames =>
        obtain ⟨d, hfront, hd⟩ := g.isFixed.front w hw
        have hhead : (unframe (g :: frames)).head? = some d := by
          rw [unframe_cons, List.head?_append, Option.mem_def.mp hfront]
          rfl
        exact infix_append_of_head hhead hd
    rw [unframe_cons, infix_append_of_last hlast hc, or_iff_right hplain, hfree,
      List.exists_mem_cons_iff]
    exact or_congr_right ih

/-- A code point that no free text has stands in fixed text. -/
theorem exists_fixed_of_unframe (hfree : ∀ f ∈ frames, c ∉ f.free)
    (h : unframe frames = a ++ c :: s) :
    ∃ f ∈ frames, ∃ u v x y, f.fixed = u ++ c :: v ∧ a = x ++ u ∧ s = v ++ y := by
  induction frames generalizing a with
  | nil => simp at h
  | cons f frames ih =>
    rw [List.forall_mem_cons] at hfree
    rw [unframe_cons] at h
    rcases append_eq_append_cons h with ⟨v, hv, hs⟩ | ⟨b, rfl, hb⟩
    · exact ⟨f, List.mem_cons_self, a, v, [], _, hv, rfl, hs⟩
    rcases append_eq_append_cons hb with ⟨v, hv, -⟩ | ⟨r, rfl, hr⟩
    · exact absurd (by rw [hv]; simp) hfree.1
    · obtain ⟨g, hg, u, v, x, y, hfixed, rfl, hs⟩ := ih hfree.2 hr
      refine ⟨g, List.mem_cons_of_mem _ hg, u, v, f.fixed ++ (f.free ++ x), y, hfixed, ?_, hs⟩
      rw [List.append_assoc, List.append_assoc]

/-- What stands around a parenthesis or brace of a script is harmless, if free text has none. -/
theorem harmless_of_unframe (hfree : ∀ f ∈ frames, c ∉ f.free)
    (h : unframe frames = a ++ c :: s) :
    ∃ u v x y, Harmless u.reverse c v ∧ a = x ++ u ∧ s = v ++ y := by
  obtain ⟨f, -, u, v, x, y, hfixed, ha, hs⟩ := exists_fixed_of_unframe hfree h
  have hplace := eachPlace_iff.mp f.isFixed.harmless u c v hfixed
  rw [List.append_nil] at hplace
  exact ⟨u, v, x, y, hplace, ha, hs⟩

/-- Without parentheses in free text, the one import is that of the standard library. -/
theorem not_fileImport (hfree : ∀ f ∈ frames, ('(' : CodePoint) ∉ f.free) :
    fileImport.occursIn (unframe frames) = false := by
  rw [Bool.eq_false_iff, Ne, occursIn_iff]
  rintro ⟨a, _, rest, h, hspan⟩
  obtain ⟨_, rfl, b, _, rfl, hb, hquote⟩ := spans_lit_seq.mp hspan
  obtain ⟨_, rfl, _, y, rfl, ⟨rfl, hother⟩, -⟩ := spans_lit_seq.mp hquote
  have hword : ofString "@import(" = ofString "@import" ++ [('(' : CodePoint)] := rfl
  have hparen : unframe frames = (a ++ ofString "@import") ++ ('(' : CodePoint) ::
      (b ++ (ofString "\"" ++ (y ++ rest))) := by
    rw [h, hword]
    simp only [List.append_assoc, List.cons_append, List.nil_append]
  obtain ⟨u, v, x, z, hplace, ha, hs⟩ := harmless_of_unframe hfree hparen
  rcases (hplace.1 rfl).1 with hmeets | ⟨r, rfl⟩
  · have hback := congrArg List.reverse ha
    rw [List.reverse_append, List.reverse_append] at hback
    exact hmeets (meets_of_append hback)
  · cases b with
    | nil =>
      have hstd : y ++ rest = ofString "std\"" ++ (r ++ z) := (List.cons.inj hs).2
      exact hother _ _ hstd (Or.inl rfl)
    | cons c b =>
      have hblank := spans_blanks.mp hb c List.mem_cons_self
      rw [(List.cons.inj hs).1] at hblank
      exact absurd hblank (by decide)

theorem not_pathLiteral (hfree : ∀ f ∈ frames, ('{' : CodePoint) ∉ f.free) :
    pathLiteral.occursIn (unframe frames) = false := by
  rw [Bool.eq_false_iff, Ne, occursIn_iff]
  rintro ⟨a, _, rest, h, hspan⟩
  obtain ⟨_, rfl, b, _, rfl, hb, hpath⟩ := spans_lit_seq.mp hspan
  obtain ⟨r, rfl, -⟩ := spans_lit_seq.mp hpath
  have hword : ofString ".\x7b" = ofString "." ++ [('{' : CodePoint)] := rfl
  have hbrace : unframe frames = (a ++ ofString ".") ++ ('{' : CodePoint) ::
      (b ++ (ofString ".path" ++ (r ++ rest))) := by
    rw [h, hword]
    simp only [List.append_assoc, List.cons_append, List.nil_append]
  obtain ⟨u, v, x, z, hplace, -, hs⟩ := harmless_of_unframe hfree hbrace
  exact hplace.2 rfl (meets_of_blanks (spans_blanks.mp hb) (by decide) hs)

theorem not_stepModule (hfree : ∀ f ∈ frames, ('(' : CodePoint) ∉ f.free) :
    stepModule.occursIn (unframe frames) = false := by
  rw [Bool.eq_false_iff, Ne, occursIn_iff]
  rintro ⟨a, _, rest, h, _, _, rfl, ⟨rfl, -⟩, k, _, rfl, -, hmodule⟩
  obtain ⟨_, rfl, hopening⟩ := spans_lit_seq.mp hmodule
  obtain ⟨b, hb, rfl⟩ := spans_opening.mp hopening
  have hparen : unframe frames =
      (a ++ (k ++ (ofString ".addModule" ++ b))) ++ ('(' : CodePoint) :: rest := by
    rw [h]
    simp only [List.append_assoc, List.cons_append, List.nil_append]
  obtain ⟨u, v, x, z, hplace, ha, -⟩ := harmless_of_unframe hfree hparen
  have hback := congrArg List.reverse ha
  simp only [List.reverse_append, List.append_assoc] at hback
  have hblanks : ∀ c ∈ b.reverse, c.isBlank = true := fun c hc => hb c (List.mem_reverse.mp hc)
  exact (hplace.1 rfl).2 (meets_of_blanks hblanks (by decide) hback)

/-! ## The frames of a script -/

def headerFrames (o : BuildOptions) : List Frame :=
  .mk (concat ["//! Build script for Zig project\n", "//! Zig version: "]) o.zigVersion ::
    .mk (concat ["\n", "//! Preferred optimize mode: "]) o.mode.name ::
    ((if o.target.isEmpty then []
      else [.mk (concat ["\n", "//! Default target: "]) o.target]) ++
      [.mk (concat ["\n", "\n"]) []])

def targetFrames (target : Text) : List Frame :=
  if target.isEmpty then [.mk ".\x7b\x7d" []]
  else [
    .mk (concat [
      ".\x7b\n",
      "        .default_target = std.Target.Query.parse(.\x7b\n",
      "            .arch_os_abi = \""]) target,
    .mk (concat [
      "\",\n",
      "        \x7d) catch @panic(\"invalid target triple\"),\n",
      "    \x7d"]) []]

def optimizeFrames (mode : OptimizeMode) : List Frame :=
  if mode = .debug then [.mk ".\x7b\x7d" []]
  else [
    .mk ".\x7b .preferred_optimize_mode = ." mode.name,
    .mk " \x7d" []]

def dependencyFrames (name : Text) : List Frame := [
  .mk "    const " (Zig.identifier name),
  .mk "_dep = b.dependency(\"" name,
  .mk (concat [
    "\", .\x7b\n",
    "        .target = target,\n",
    "        .optimize = optimize,\n",
    "    \x7d);\n",
    "    exe.root_module.addImport(\""]) name,
  .mk "\", " (Zig.identifier name),
  .mk "_dep.module(\"" name,
  .mk "\"));\n" []]

def stepFrames (name : Text) : List Frame := [
  .mk "    const " (Zig.identifier name),
  .mk "_step = b.step(\"" name,
  .mk "\", \"Run the " name,
  .mk (concat [" step\");\n", "    "]) (Zig.identifier name),
  .mk "_step.dependOn(b.getInstallStep());\n" []]

def packageFrames (o : BuildOptions) : List Frame :=
  if o.packages = [] then [.mk "    // No external dependencies declared\n" []]
  else o.packages.flatMap dependencyFrames

def furtherFrames (o : BuildOptions) : List Frame :=
  if o.furtherSteps = [] then []
  else .mk "\n    // Custom steps\n" [] :: o.furtherSteps.flatMap stepFrames

def openingFrame : Frame where
  fixed := concat [
    "const std = @import(\"std\");\n",
    "\n",
    "pub fn build(b: *std.Build) void \x7b\n",
    "    // Lets the person running `zig build` choose the target; native by default.\n",
    "    const target = b.standardTargetOptions("]
  free := []

def modeFrame : Frame where
  fixed := concat [
    ");\n",
    "\n",
    "    // Debug, ReleaseSafe, ReleaseFast or ReleaseSmall via -Doptimize.\n",
    "    const optimize = b.standardOptimizeOption("]
  free := []

def executableFrame : Frame where
  fixed := concat [
    ");\n",
    "\n",
    "    const exe = b.addExecutable(.\x7b\n",
    "        .name = \"main\",\n",
    "        .root_source_file = b.path(\"src/main.zig\"),\n",
    "        .target = target,\n",
    "        .optimize = optimize,\n",
    "    \x7d);\n",
    "\n",
    "    // Dependencies from build.zig.zon\n"]
  free := []

def installFrame : Frame where
  fixed := concat ["\n", "    b.installArtifact(exe);\n", "\n"]
  free := []

def runAndTestFrame : Frame where
  fixed := runAndTest
  free := []

def scriptFrames (o : BuildOptions) : List Frame :=
  headerFrames o ++ openingFrame :: (targetFrames o.target ++ modeFrame ::
    (optimizeFrames o.mode ++ executableFrame :: (packageFrames o ++
      installFrame :: runAndTestFrame :: (furtherFrames o ++ [.mk "\x7d\n" []]))))

theorem unframe_headerFrames (o : BuildOptions) : unframe (headerFrames o) = header o := by
  cases h : o.target.isEmpty <;> simp [headerFrames, header, h, concat]

theorem unframe_targetFrames (target : Text) :
    unframe (targetFrames target) = targetArgument target := by
  cases h : target.isEmpty <;> simp [targetFrames, targetArgument, h, concat]

theorem unframe_optimizeFrames (mode : OptimizeMode) :
    unframe (optimizeFrames mode) = optimizeArgument mode := by
  cases mode <;> simp [optimizeFrames, optimizeArgument, concat]

theorem unframe_dependencyFrames (name : Text) :
    unframe (dependencyFrames name) = dependencyBlock name := by
  simp [dependencyFrames, dependencyBlock, concat]

theorem unframe_stepFrames (name : Text) : unframe (stepFrames name) = stepBlock name := by
  simp [stepFrames, stepBlock, concat]

theorem unframe_flatMap {f : Text → List Frame} {g : Text → Text}
    (h : ∀ name, unframe (f name) = g name) (names : List Text) :
    unframe (names.flatMap f) = names.flatMap g := by
  induction names with
  | nil => rfl
  | cons name names ih => rw [List.flatMap_cons, List.flatMap_cons, unframe_append, h, ih]

theorem unframe_packageFrames (o : BuildOptions) :
    unframe (packageFrames o) = dependencySection o := by
  unfold packageFrames dependencySection
  cases o.packages with
  | nil => simp
  | cons name names =>
    rw [if_neg (List.cons_ne_nil name names)]
    exact unframe_flatMap unframe_dependencyFrames _

theorem unframe_furtherFrames (o : BuildOptions) :
    unframe (furtherFrames o) = stepSection o := by
  unfold furtherFrames stepSection
  cases o.furtherSteps with
  | nil => rfl
  | cons name names =>
    rw [if_neg (List.cons_ne_nil name names)]
    simp only [unframe_cons, List.nil_append, unframe_flatMap unframe_stepFrames, concat,
      List.flatten_cons, List.flatten_nil, List.append_nil]

/-- The frames of a script make up the script. -/
theorem unframe_scriptFrames (o : BuildOptions) : unframe (scriptFrames o) = generate o := by
  simp [scriptFrames, unframe_append, unframe_headerFrames, unframe_targetFrames,
    unframe_optimizeFrames, unframe_packageFrames, unframe_furtherFrames, generate, opening,
    executable, concat, openingFrame, modeFrame, executableFrame, installFrame, runAndTestFrame]

end ZigAdvisor.BuildScript
