import ZigAdvisor.Proofs.Build.FreeText
import ZigAdvisor.Review.BuildSystem
import ZigAdvisor.Review.Rule

/-!
# Recommendations for generated scripts

A generated script makes all the calls that a script should make. It uses an old name only where its
options mention one, and what the checks by patterns look for only if the options mention a
parenthesis or a brace; without these the script is up to date.
-/

namespace ZigAdvisor

open Text

namespace BuildIssue

variable {i j : BuildIssue}

theorem mem_all (i : BuildIssue) : i ∈ all := by
  cases i <;> decide

theorem eq_of_advice_eq (h : i.advice = j.advice) : i = j := by
  cases i <;> cases j <;> first | rfl | simp [advice] at h

theorem advice_ne_upToDate (i : BuildIssue) : i.advice ≠ BuildScript.upToDate := by
  cases i <;> simp [advice, BuildScript.upToDate]

end BuildIssue

namespace BuildSystem

variable {code : Text}

/-- The entry point occurs where a line begins with it, written with single spaces. -/
theorem entryPoint_occursIn (h : ofString "\npub fn build(" <:+: code) :
    entryPoint.occursIn code = true := by
  obtain ⟨a, rest, rfl⟩ := h
  have hgap : ofString " " ≠ [] ∧ ∀ c ∈ ofString " ", c.isBlank = true := by decide
  have hedge : (some ('\n' : CodePoint)).any CodePoint.isWord ≠
      (some ('p' : CodePoint)).any CodePoint.isWord := by decide
  apply Pattern.occursIn_iff.mpr
  refine ⟨a ++ ofString "\n", ofString "pub fn build(", rest, ?_, ?_⟩
  · rw [List.append_assoc, List.append_assoc]
    rfl
  · rw [lastOr_append]
    apply Pattern.spans_wordEdge_seq.mpr
    refine ⟨hedge, Pattern.spans_lit_seq.mpr ⟨ofString " fn build(", rfl, ?_⟩⟩
    refine ⟨ofString " ", ofString "fn build(", rfl, Pattern.spans_gap.mpr hgap, ?_⟩
    apply Pattern.spans_lit_seq.mpr
    refine ⟨ofString " build(", rfl, ofString " ", ofString "build(", rfl, ?_, ?_⟩
    · exact Pattern.spans_gap.mpr hgap
    · apply Pattern.spans_lit_seq.mpr
      exact ⟨ofString "(", rfl, Pattern.spans_opening.mpr ⟨[], by simp, rfl⟩⟩

theorem lacks_build_fn (h : entryPoint.occursIn code = true) :
    (Metric.measure metrics code).lacks "build_fn" = false := by
  have hspan : ∀ before rest, ¬ entryPoint.Spans before [] rest := by
    intro before rest hnil
    obtain ⟨n, hn, -⟩ := Pattern.spans_lit_seq.mp (Pattern.spans_wordEdge_seq.mp hnil).2
    cases hn
  have hpos : 0 < entryPoint.count code := (Pattern.count_pos_iff hspan).mpr h
  exact beq_false_of_ne hpos.ne'

theorem severity_of_holds {m : Metrics} (h : m.lacks "build_fn" = false) :
    ∀ rule ∈ rules, rule.holds m = true → rule.severity ≠ .suggestion := by
  intro rule hrule hholds
  simp only [rules, List.mem_cons, List.not_mem_nil, or_false] at hrule
  rcases hrule with rfl | rfl | rfl | rfl
  · simp [Rule.onCondition, h] at hholds
  · simp [Rule.onCondition, h] at hholds
  · decide
  · decide

/-- A script without issues is praised, and nothing is suggested. -/
theorem findings_of_issues (hentry : entryPoint.occursIn code = true)
    (hissues : BuildScript.issues code = []) :
    ⟨.strength, BuildScript.upToDate⟩ ∈ (classifier.classify code).findings ∧
      ∀ f ∈ (classifier.classify code).findings, f.severity ≠ .suggestion := by
  have haudit : classifier.audit code = [⟨.strength, BuildScript.upToDate⟩] := by
    change auditScript code = _
    rw [auditScript, if_pos hentry, hissues]
  rw [Classifier.classify, haudit]
  refine ⟨List.mem_append_right _ List.mem_cons_self, fun f hf => ?_⟩
  rcases List.mem_append.mp hf with hrules | hstrength
  · obtain ⟨rule, hrule, hholds, rfl⟩ := Classifier.mem_ruleFindings.mp hrules
    exact severity_of_holds (lacks_build_fn hentry) rule hrule hholds
  · rw [List.mem_singleton] at hstrength
    rw [hstrength]
    decide

end BuildSystem

namespace BuildScript

def Recommends (script : Text) (i : BuildIssue) : Prop :=
  ofString i.advice ∈ recommendations script

variable {script : Text} {o : BuildOptions}

theorem issues_eq_nil : issues script = [] ↔ ∀ i ∈ BuildIssue.all, i.isIn script = false := by
  simp [issues]

theorem recommends_iff {i : BuildIssue} : Recommends script i ↔ i.isIn script = true := by
  have hmem : i ∈ issues script ↔ i.isIn script = true := by
    simp [issues, BuildIssue.mem_all]
  rw [← hmem]
  unfold Recommends recommendations
  cases issues script with
  | nil => simpa [ofString_injective.eq_iff] using i.advice_ne_upToDate
  | cons j found =>
    rw [List.mem_map]
    constructor
    · rintro ⟨k, hk, hadvice⟩
      rwa [← BuildIssue.eq_of_advice_eq (ofString_injective hadvice)]
    · intro hi
      exact ⟨i, hi, rfl⟩

theorem recommendations_of_issues (h : issues script = []) :
    recommendations script = [ofString upToDate] := by
  rw [recommendations, h]

/-- What every script has of its own, with the frame that it stands in: the calls that a script
should make, and its entry point. -/
def ownTexts : List (String × Frame) :=
  [("standardTargetOptions", openingFrame), ("standardOptimizeOption", modeFrame),
    ("addTest", runAndTestFrame), ("installArtifact", installFrame),
    ("\npub fn build(", openingFrame)]

theorem fixed_infix_generate {f : Frame} (hf : f ∈ scriptFrames o) : f.fixed <:+: generate o := by
  rw [← unframe_scriptFrames, unframe]
  refine List.IsInfix.trans ?_ (List.infix_of_mem_flatten (List.mem_map.mpr ⟨f, hf, rfl⟩))
  exact (List.prefix_append _ _).isInfix

theorem ownTexts_infix_generate (o : BuildOptions) :
    ∀ own ∈ ownTexts, ofString own.1 <:+: generate o := by
  have hfixed : ∀ own ∈ ownTexts, own.2.fixed.contains own.1 := by decide +kernel
  have hframe : ∀ own ∈ ownTexts, own.2 ∈ scriptFrames o := by simp [ownTexts, scriptFrames]
  intro own hown
  exact (contains_iff.mp (hfixed own hown)).trans (fixed_infix_generate (hframe own hown))

/-- The calls that every script should make are not missing. -/
theorem missing_isIn_generate (o : BuildOptions) :
    ∀ i ∈ [BuildIssue.noTargetOptions, .noOptimizeOption, .noTest, .noInstall],
      i.isIn (generate o) = false := by
  have hcontains : ∀ own ∈ ownTexts, (generate o).contains own.1 = true := fun own hown =>
    contains_iff.mpr (ownTexts_infix_generate o own hown)
  simp only [ownTexts, List.forall_mem_cons] at hcontains
  obtain ⟨htarget, hoptimize, htest, hinstall, -⟩ := hcontains
  simp [BuildIssue.isIn, htarget, hoptimize, htest, hinstall]

/-- The checks by patterns find nothing unless the options mention a parenthesis or a brace. -/
theorem patterns_isIn_generate (hparen : ¬ o.Mentions "(") (hbrace : ¬ o.Mentions "\x7b") :
    ∀ i ∈ [BuildIssue.fileImport, .pathLiteral, .stepModule], i.isIn (generate o) = false := by
  have hparens := not_mem_free (by decide) hparen
  have hbraces := not_mem_free (by decide) hbrace
  rw [← unframe_scriptFrames]
  simp [BuildIssue.isIn, not_fileImport hparens, not_pathLiteral hbraces, not_stepModule hparens]

/-- What is said of a generated script: no call is missing, an old name is found exactly if the
options mention it, and otherwise there is something to say only if they mention a parenthesis or a
brace. -/
theorem recommends_generate (o : BuildOptions) :
    (∀ i ∈ [BuildIssue.noTargetOptions, .noOptimizeOption, .noTest, .noInstall],
      ¬ Recommends (generate o) i) ∧
    (Recommends (generate o) .oldBuilder ↔ o.Mentions "Builder") ∧
    (Recommends (generate o) .setTarget ↔ o.Mentions "setTarget") ∧
    (Recommends (generate o) .setBuildMode ↔ o.Mentions "setBuildMode") ∧
    (¬ o.Mentions "(" → ¬ o.Mentions "\x7b" →
      (∀ i ∈ [BuildIssue.fileImport, .pathLiteral, .stepModule],
        ¬ Recommends (generate o) i) ∧
      ((∀ w ∈ oldNames, ¬ o.Mentions w) →
        recommendations (generate o) = [ofString upToDate] ∧
        ⟨.strength, upToDate⟩ ∈ (BuildSystem.classifier.classify (generate o)).findings ∧
        ∀ f ∈ (BuildSystem.classifier.classify (generate o)).findings,
          f.severity ≠ .suggestion)) := by
  have hmissing := missing_isIn_generate o
  have holdNames : ∀ w ∈ oldNames, (generate o).contains w = true ↔ o.Mentions w :=
    fun w hw => contains_generate hw
  have hentry : BuildSystem.entryPoint.occursIn (generate o) = true :=
    BuildSystem.entryPoint_occursIn
      (ownTexts_infix_generate o ("\npub fn build(", openingFrame) (by simp [ownTexts]))
  simp only [recommends_iff, Bool.not_eq_true]
  refine ⟨hmissing, holdNames _ (by decide), holdNames _ (by decide), holdNames _ (by decide),
    fun hparen hbrace => ?_⟩
  have hpatterns := patterns_isIn_generate hparen hbrace
  refine ⟨hpatterns, fun hold => ?_⟩
  have hnames : ∀ i ∈ [BuildIssue.oldBuilder, .setTarget, .setBuildMode],
      i.isIn (generate o) = false := by
    have hname : ∀ w ∈ oldNames, (generate o).contains w = false := fun w hw =>
      Bool.eq_false_iff.mpr fun h => hold w hw ((holdNames w hw).mp h)
    simpa [oldNames, BuildIssue.isIn] using hname
  have hissues : issues (generate o) = [] := issues_eq_nil.mpr <|
    List.forall_mem_append.mpr ⟨hnames, List.forall_mem_append.mpr ⟨hpatterns, hmissing⟩⟩
  exact ⟨recommendations_of_issues hissues, BuildSystem.findings_of_issues hentry hissues⟩

theorem recommends_generate_package :
    let o : BuildOptions :=
      ⟨"0.15.1", .releaseSafe, "aarch64-linux-musl", ["zig-args"], ["docs", "run"]⟩
    ¬ o.Mentions "(" ∧ ¬ o.Mentions "\x7b" ∧ (∀ w ∈ oldNames, ¬ o.Mentions w) ∧
      recommendations (generate o) = [ofString upToDate] := by
  intro o
  have hparen : ¬ o.Mentions "(" := by decide +kernel
  have hbrace : ¬ o.Mentions "\x7b" := by decide +kernel
  have hnames : ∀ w ∈ oldNames, ¬ o.Mentions w := by decide +kernel
  obtain ⟨-, -, -, -, hplain⟩ := recommends_generate o
  obtain ⟨-, hup⟩ := hplain hparen hbrace
  exact ⟨hparen, hbrace, hnames, (hup hnames).1⟩

end BuildScript

end ZigAdvisor
