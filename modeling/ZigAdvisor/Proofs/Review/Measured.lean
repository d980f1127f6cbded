import ZigAdvisor.Estimate.Allocation
import ZigAdvisor.Estimate.Memory
import ZigAdvisor.Estimate.Time
import ZigAdvisor.Proofs.Flow.Complexity
import ZigAdvisor.Proofs.Text.Lines
import ZigAdvisor.Review.Registry

/-!
# Figures that are read are measured

A name without a figure counts zero, which would hide a rule that asks for a figure nobody
measures. No rule of a review and no section of an estimate does: what they say is settled by the
figures that are measured before. A quotient by zero is zero too, and it stands for the density of
no lines or the length of no functions.
-/

namespace ZigAdvisor

namespace Metrics

def names (m : Metrics) : List String := m.map Prod.fst

@[simp] theorem names_append (m n : Metrics) : (m ++ n).names = m.names ++ n.names :=
  List.map_append

/-- Figures in front do not count for a name that is not among them. -/
theorem get_append_of_not_mem {m : Metrics} {name : String} (h : name ∉ m.names) (n : Metrics) :
    (m ++ n).get name = n.get name := by
  have hm : m.lookup name = none := by
    rw [List.lookup_eq_none_iff]
    intro figure hfigure
    have hne : name ≠ figure.1 := by
      rintro rfl
      exact h (List.mem_map_of_mem hfigure)
    exact bne_iff_ne.mpr hne
  rw [get_append, hm, Option.none_or, get]

/-- Whether what is made of figures depends on those of some names only. -/
def ReadsOnly {α : Type} (names : List String) (f : Metrics → α) : Prop :=
  ∀ m m' : Metrics, (∀ name ∈ names, m.get name = m'.get name) → f m = f m'

end Metrics

@[simp] theorem Metric.names_measure (table : List Metric) (t : Text) :
    (measure table t).names = table.map Metric.name := by
  rw [Metrics.names, measure, List.map_map]
  rfl

namespace Rule

variable {severity : Severity} {name : String} {message : Text} {m : Metrics}

@[simp] theorem finding?_onCondition {holds : Metrics → Bool} :
    (onCondition severity holds message).finding? m =
      if holds m then some ⟨severity, message⟩ else none := rfl

@[simp] theorem finding?_onPresence : (onPresence severity name message).finding? m =
    if m.has name then some ⟨severity, message⟩ else none := rfl

@[simp] theorem finding?_onAbsence : (onAbsence severity name message).finding? m =
    if m.lacks name then some ⟨severity, message⟩ else none := rfl

@[simp] theorem finding?_mk {holds : Metrics → Bool} {text : Metrics → Text} :
    (Rule.mk severity holds text).finding? m =
      if holds m then some ⟨severity, text m⟩ else none := rfl

end Rule

/-- Whether all rules of a classifier read figures that it measures. -/
def Classifier.Grounded (c : Classifier) : Prop :=
  ∀ code, ∀ rule ∈ c.rules, Metrics.ReadsOnly (c.measure code).names rule.finding?

theorem Classifier.grounded_of_names {c : Classifier} {names : List String}
    (hnames : ∀ code, (c.measure code).names = names)
    (h : ∀ m m' : Metrics, (∀ name ∈ names, m.get name = m'.get name) →
      ∀ rule ∈ c.rules, rule.finding? m = rule.finding? m') : c.Grounded := by
  intro code rule hrule m m' hget
  rw [hnames] at hget
  exact h m m' hget rule hrule

theorem Complexity.names_measure (code : Text) :
    (measure code).names = metrics.map Metric.name ++ ["nested_loops", "recursion"] := by
  rw [measure, Metrics.names_append, Metric.names_measure]
  rfl

theorem Performance.grounded : classifier.Grounded := by
  have hnames (code : Text) : (classifier.measure code).names =
      metrics.map Metric.name ++
        (Complexity.metrics.map Metric.name ++ ["nested_loops", "recursion"]) ++
        ["nested_for"] := by
    rw [← Complexity.names_measure code, ← Metric.names_measure metrics code]
    simp [classifier, measure, Metrics.names]
  refine Classifier.grounded_of_names hnames fun m m' h => ?_
  simp (disch := decide) [classifier, rules, Complexity.estimate, Metrics.has, Metrics.lacks, h]

namespace FileMetrics

variable {code : Text}

theorem grounded : classifier.Grounded := by
  have hnames (code : Text) : (classifier.measure code).names =
      metrics.map Metric.name ++
        (Complexity.metrics.map Metric.name ++ ["nested_loops", "recursion"]) ++
        ["lines", "code_lines", "comment_density_pct", "avg_function_length"] ++
        ["nesting_depth"] := by
    rw [← Complexity.names_measure code, ← Metric.names_measure metrics code]
    simp [classifier, measure, lineFigures, Metrics.names]
  refine Classifier.grounded_of_names hnames fun m m' h => ?_
  simp (disch := decide) [classifier, rules, Complexity.estimate, Metrics.has, Metrics.lacks, h]

/-- A text without lines has no line that is a comment. -/
theorem get_comment_density_pct (h : code.lines = []) :
    (measure code).get "comment_density_pct" = 0 := by
  rw [Text.lines_eq_nil.mp h]
  decide

theorem get_avg_function_length : (measure code).get "avg_function_length" =
    if (measure code).get "functions" = 0 then 0
    else code.lines.countP isCodeLine / (measure code).get "functions" := by
  have hcounts : "avg_function_length" ∉
      (Metric.measure metrics code ++ Complexity.measure code).names := by
    rw [Metrics.names_append, Metric.names_measure, Complexity.names_measure]
    decide
  rw [measure, List.append_assoc, Metrics.get_append_of_not_mem hcounts]
  rfl

end FileMetrics

theorem Classifier.grounded_of_mem :
    ∀ c ∈ Optimization.classifier :: registry, c.Grounded := by
  simp only [registry, List.forall_mem_cons]
  refine ⟨?_, ?_, ?_, ?_, Performance.grounded, ?_, ?_, ?_, ?_, ?_, FileMetrics.grounded, ?_,
    List.forall_mem_nil _⟩
  -- The others measure a table and nothing else.
  all_goals
    refine grounded_of_names (Metric.names_measure _) fun m m' h rule hrule => ?_
    fin_cases hrule
    all_goals simp (disch := decide) [Modernity.removedCasts, Metrics.has, Metrics.lacks, h]

theorem Note.select_congr {notes : List Note} {m m' : Metrics}
    (h : ∀ note ∈ notes, note.holds m = note.holds m') : select notes m = select notes m' := by
  rw [select, select, List.filter_congr h]

/-- Whether every figure that a report reads is measured for it, and the figures that are quotients
are zero where nothing is divided. -/
structure FiguresMeasured : Prop where
  reviews : ∀ c ∈ Optimization.classifier :: Classifier.registry, c.Grounded
  memory : ∀ code, Metrics.ReadsOnly (Metric.measure MemoryUsage.metrics code).names
    fun m => (MemoryUsage.lines m, Note.select MemoryUsage.notes m)
  time : ∀ code, Metrics.ReadsOnly (Complexity.measure code).names
    fun m => (RunningTime.lines m (maxLoopDepth code), Note.select RunningTime.notes m)
  allocation : ∀ code, Metrics.ReadsOnly (Metric.measure Allocation.metrics code).names
    fun m => (Allocation.lines m, Note.select Allocation.notes m)
  density : ∀ code, Text.lines code = [] →
    (FileMetrics.measure code).get "comment_density_pct" = 0
  functionLength : ∀ code, (FileMetrics.measure code).get "functions" = 0 →
    (FileMetrics.measure code).get "avg_function_length" = 0

theorem figuresMeasured : FiguresMeasured where
  reviews := Classifier.grounded_of_mem
  memory := by
    intro code m m' h
    rw [Metric.names_measure] at h
    have hnotes : Note.select MemoryUsage.notes m = Note.select MemoryUsage.notes m' := by
      refine Note.select_congr ?_
      simp (disch := decide) [MemoryUsage.notes, Metrics.has, Metrics.lacks, h]
    simp (disch := decide) [MemoryUsage.lines, MemoryUsage.profile, Metrics.line, h, hnotes]
  time := by
    intro code m m' h
    rw [Complexity.names_measure] at h
    have hnotes : Note.select RunningTime.notes m = Note.select RunningTime.notes m' := by
      refine Note.select_congr ?_
      simp (disch := decide) [RunningTime.notes, Metrics.has, h]
    simp (disch := decide) [RunningTime.lines, Complexity.estimate, Metrics.line, Metrics.has, h,
      hnotes]
  allocation := by
    intro code m m' h
    rw [Metric.names_measure] at h
    have hnotes : Note.select Allocation.notes m = Note.select Allocation.notes m' := by
      refine Note.select_congr ?_
      simp (disch := decide) [Allocation.notes, Metrics.has, Metrics.lacks, h]
    have hstrategy : Allocation.strategy m = Allocation.strategy m' := by
      have hkinds : (Allocation.kinds.filter fun kind => m.has kind.1) =
          Allocation.kinds.filter fun kind => m'.has kind.1 := by
        refine List.filter_congr ?_
        simp (disch := decide) [Allocation.kinds, Metrics.has, h]
      rw [Allocation.strategy, hkinds, Allocation.strategy]
    simp (disch := decide) [Allocation.lines, Metrics.line, h, hnotes, hstrategy]
  density := fun _ => FileMetrics.get_comment_density_pct
  functionLength := fun code h => by
    rw [FileMetrics.get_avg_function_length, if_pos h]

end ZigAdvisor
