import ZigAdvisor.Estimate.Time
import ZigAdvisor.Proofs.Flow.Complexity
import ZigAdvisor.Proofs.Flow.LoopNesting
import ZigAdvisor.Review.FileMetrics
import ZigAdvisor.Review.Performance
import ZigAdvisor.Review.Rule

/-!
# The label of time complexity

Three reports carry the label: the review of performance, the metrics of a file and the section on
running time. All three read it off the same figures, so they name the same class. The advice to
review nested loops counts loops over items only, and where it is given all three say that the
code is quadratic.
-/

namespace ZigAdvisor

variable {code : Text} {c c' : Complexity}

namespace Complexity

/-- No label begins another one. -/
theorem eq_of_prefix_label (h : Text.ofString c.label <+: Text.ofString c'.label) : c = c' := by
  revert h
  cases c <;> cases c' <;> decide

/-- A text shows one label at most at its front, behind the same words. -/
theorem eq_of_prefix_concat {words tail tail' t : Text}
    (h : Text.concat [words, c.label, tail] <+: t)
    (h' : Text.concat [words, c'.label, tail'] <+: t) : c = c' := by
  simp only [Text.concat, List.flatten_cons] at h h'
  obtain ⟨rest, rfl⟩ := (List.prefix_append _ _).trans h
  rw [List.prefix_append_right_inj] at h h'
  have hlabel := (List.prefix_append _ _).trans h
  have hlabel' := (List.prefix_append _ _).trans h'
  rcases List.prefix_or_prefix_of_prefix hlabel hlabel' with hle | hle
  · exact eq_of_prefix_label hle
  · exact (eq_of_prefix_label hle).symm

theorem concat_label_inj {words tail : Text} :
    Text.concat [words, c.label, tail] = Text.concat [words, c'.label, tail] ↔ c = c' := by
  constructor
  · intro h
    have hprefix : Text.concat [words, c.label, tail] <+:
        Text.concat [words, c'.label, tail] := by
      rw [h]
    exact eq_of_prefix_concat hprefix (List.prefix_refl _)
  · rintro rfl
    rfl

end Complexity

/-- A classifier whose one rule for a label names the class of its figures reports that class. -/
theorem Classifier.mem_findings_of_label {classifier : Classifier} {finding : Complexity → Finding}
    (haudit : classifier.audit code = [])
    (hrule : classifier.rulesLike code (finding c) =
      [⟨.info, fun _ => true, fun m => (finding (.estimate m)).message⟩])
    (hmessage : (finding c).message =
        (finding (.estimate (classifier.measure code))).message ↔
      c = .estimate (classifier.measure code)) :
    finding c ∈ (classifier.classify code).findings ↔
      c = .estimate (classifier.measure code) := by
  rw [findings_classify haudit, mem_ruleFindings_of_rule hrule]
  exact (and_iff_right rfl).trans hmessage

namespace Performance

def complexityFinding (c : Complexity) : Finding :=
  ⟨.info, .concat ["Estimated time complexity: ", c.label, " (heuristic estimate)"]⟩

def nestedLoopAdvice : Finding :=
  ⟨.warning, "Review nested loops for optimization opportunities"⟩

theorem estimate_measure :
    Complexity.estimate (measure code) = Complexity.estimate (Complexity.measure code) := by
  refine Complexity.estimate_append _ _ fun name hname => Metric.lookup_measure ?_ _
  revert name
  decide

theorem rulesLike_complexityFinding : classifier.rulesLike code (complexityFinding c) =
    [⟨.info, fun _ => true, fun m => (complexityFinding (.estimate m)).message⟩] := rfl

theorem rulesLike_nestedLoopAdvice : classifier.rulesLike code nestedLoopAdvice =
    [Rule.onPresence .warning "nested_for" nestedLoopAdvice.message] := rfl

theorem complexityFinding_mem : complexityFinding c ∈ (classifier.classify code).findings ↔
    c = Complexity.estimate (Complexity.measure code) := by
  rw [← estimate_measure]
  exact Classifier.mem_findings_of_label rfl rulesLike_complexityFinding Complexity.concat_label_inj

theorem get_nested_for : (measure code).get "nested_for" = nestedLoops .forLoop code := by
  have hname : (Metric.measure metrics code ++ Complexity.measure code).lookup "nested_for" =
      none := by
    rw [Complexity.measure, List.lookup_append, List.lookup_append,
      Metric.lookup_measure (by decide), Metric.lookup_measure (by decide)]
    rfl
  rw [measure, Metrics.get_append, hname]
  rfl

theorem nestedLoopAdvice_mem : nestedLoopAdvice ∈ (classifier.classify code).findings ↔
    0 < nestedLoops .forLoop code := by
  rw [← get_nested_for]
  exact Classifier.mem_findings_of_presence rfl rulesLike_nestedLoopAdvice

end Performance

namespace FileMetrics

def complexityFinding (c : Complexity) : Finding :=
  ⟨.info, .concat ["Estimated complexity: ", c.label, " (heuristic estimate)"]⟩

theorem estimate_measure :
    Complexity.estimate (measure code) = Complexity.estimate (Complexity.measure code) := by
  rw [measure, List.append_assoc]
  refine Complexity.estimate_append _ _ fun name hname => Metric.lookup_measure ?_ _
  revert name
  decide

theorem rulesLike_complexityFinding : classifier.rulesLike code (complexityFinding c) =
    [⟨.info, fun _ => true, fun m => (complexityFinding (.estimate m)).message⟩] := rfl

theorem complexityFinding_mem : complexityFinding c ∈ (classifier.classify code).findings ↔
    c = Complexity.estimate (Complexity.measure code) := by
  rw [← estimate_measure]
  exact Classifier.mem_findings_of_label rfl rulesLike_complexityFinding Complexity.concat_label_inj

end FileMetrics

/-- A list begins with its first item. -/
theorem Text.prefix_bulletList (item : Text) (items : List Text) :
    concat ["- ", item] <+: bulletList (item :: items) := by
  cases items with
  | nil => simp [bulletList, join]
  | cons next items =>
    rw [bulletList, List.map_cons, List.map_cons, join, List.intercalate_cons_cons]
    exact List.prefix_append_of_prefix (List.prefix_append _ _)

namespace RunningTime

def complexityLine (c : Complexity) : Text :=
  .concat ["- Estimated Complexity: ", c.label, " (heuristic estimate from loop patterns)"]

theorem complexityLine_eq : complexityLine c = Text.concat ["- ", .concat
    ["Estimated Complexity: ", c.label, " (heuristic estimate from loop patterns)"]] := by
  have hwords : Text.ofString "- Estimated Complexity: " =
      Text.ofString "- " ++ Text.ofString "Estimated Complexity: " := rfl
  simp only [complexityLine, Text.concat, List.flatten_cons, List.flatten_nil, List.append_nil,
    hwords, List.append_assoc]

theorem complexityLine_prefix_estimate :
    complexityLine (.estimate (Complexity.measure code)) <+: estimate code := by
  have hlist : complexityLine (.estimate (Complexity.measure code)) <+:
      Text.bulletList (lines (Complexity.measure code) (maxLoopDepth code)) := by
    rw [complexityLine_eq, lines]
    exact Text.prefix_bulletList _ _
  rw [estimate, Text.withNotes]
  split_ifs
  · exact hlist
  · exact hlist.trans (List.prefix_append _ _)

theorem prefix_estimate_iff : complexityLine c <+: estimate code ↔
    c = Complexity.estimate (Complexity.measure code) := by
  constructor
  · intro h
    exact Complexity.eq_of_prefix_concat h complexityLine_prefix_estimate
  · rintro rfl
    exact complexityLine_prefix_estimate

end RunningTime

/-- Loops over items are nested at most as often as loops of both kinds, and one loop at least is
not nested. So where nested loops over items are to be looked at, each report calls the code
quadratic and names no other class. -/
theorem nested_loops_reported_quadratic (code : Text) :
    nestedLoops .forLoop code ≤ nestedLoops .anyLoop code ∧
    ((Complexity.measure code).get "loops" = 0 → nestedLoops .anyLoop code = 0) ∧
    (0 < (Complexity.measure code).get "loops" →
      nestedLoops .anyLoop code ≤ (Complexity.measure code).get "loops" - 1) ∧
    (Performance.nestedLoopAdvice ∈ (Performance.classifier.classify code).findings →
      ∀ c : Complexity,
        (Performance.complexityFinding c ∈ (Performance.classifier.classify code).findings ↔
          c = .quadratic) ∧
        (FileMetrics.complexityFinding c ∈ (FileMetrics.classifier.classify code).findings ↔
          c = .quadratic) ∧
        (RunningTime.complexityLine c <+: RunningTime.estimate code ↔ c = .quadratic)) := by
  have hmono : nestedLoops .forLoop code ≤ nestedLoops .anyLoop code :=
    nestedLoops_mono areWords_loop (by decide) code
  rw [Complexity.get_loops]
  refine ⟨hmono, nestedLoops_eq_zero areWords_loop, ?_, ?_⟩
  · intro hloops
    have := nestedLoops_lt_count areWords_loop hloops
    exact Nat.le_sub_one_of_lt this
  · intro hadvice c
    have hnested := (Performance.nestedLoopAdvice_mem.mp hadvice).trans_le hmono
    rw [← Complexity.get_nested_loops, ← Metrics.has_iff] at hnested
    rw [Performance.complexityFinding_mem, FileMetrics.complexityFinding_mem,
      RunningTime.prefix_estimate_iff, Complexity.estimate_eq_quadratic.mpr hnested]
    exact ⟨Iff.rfl, Iff.rfl, Iff.rfl⟩

theorem nested_loops_reported_quadratic_pair :
    FileMetrics.complexityFinding .quadratic ∈
      (FileMetrics.classifier.classify "for (a) for (b) c;").findings := by
  have hadvice := Performance.nestedLoopAdvice_mem.mpr
    (by decide +kernel : 0 < nestedLoops .forLoop "for (a) for (b) c;")
  exact ((nested_loops_reported_quadratic _).2.2.2 hadvice .quadratic).2.1.mpr rfl

end ZigAdvisor
