import ZigAdvisor.Pattern.Metric
import ZigAdvisor.Report.Render

/-!
# Rules and classifiers

A rule turns figures into a finding. A classifier measures a source text and applies all its rules
in order; no rule suppresses another.
-/

namespace ZigAdvisor

structure Rule where
  severity : Severity
  holds : Metrics → Bool
  message : Metrics → Text

namespace Rule

def onCondition (severity : Severity) (holds : Metrics → Bool) (message : Text) : Rule :=
  ⟨severity, holds, fun _ => message⟩

def onPresence (severity : Severity) (name : String) (message : Text) : Rule :=
  onCondition severity (·.has name) message

def onAbsence (severity : Severity) (name : String) (message : Text) : Rule :=
  onCondition severity (·.lacks name) message

def finding? (rule : Rule) (m : Metrics) : Option Finding :=
  if rule.holds m then some ⟨rule.severity, rule.message m⟩ else none

theorem finding?_eq_some {rule : Rule} {m : Metrics} {f : Finding} :
    rule.finding? m = some f ↔ rule.holds m = true ∧ f = ⟨rule.severity, rule.message m⟩ := by
  by_cases h : rule.holds m = true
  · simp [finding?, h, eq_comm]
  · simp [finding?, h]

end Rule

structure Classifier where
  name : String
  title : String
  /-- What is said of a text without findings. -/
  allClear : String
  measure : Text → Metrics
  rules : List Rule
  /-- Findings that are read off the text and not off figures. -/
  audit : Text → List Finding

namespace Classifier

def blank : Classifier where
  name := "rules"
  title := "Findings"
  allClear := "No issues found"
  measure _ := []
  rules := []
  audit _ := []

def ruleFindings (c : Classifier) (code : Text) : List Finding :=
  let m := c.measure code
  c.rules.filterMap (·.finding? m)

def classify (c : Classifier) (code : Text) : Report :=
  ⟨c.title, c.ruleFindings code ++ c.audit code, []⟩

def review (c : Classifier) (code : Text) : Text := (c.classify code).render c.allClear

variable {c : Classifier} {code : Text} {f : Finding}

theorem mem_ruleFindings : f ∈ c.ruleFindings code ↔ ∃ rule ∈ c.rules,
    rule.holds (c.measure code) = true ∧ f = ⟨rule.severity, rule.message (c.measure code)⟩ := by
  simp only [ruleFindings, List.mem_filterMap, Rule.finding?_eq_some]

/-- The rules that may lead to a finding: those of its severity whose message begins like it. -/
def rulesLike (c : Classifier) (code : Text) (f : Finding) : List Rule :=
  c.rules.filter fun rule => rule.severity = f.severity ∧
    (rule.message (c.measure code)).head? = f.message.head?

/-- If one rule alone may lead to a finding, it does. -/
theorem mem_ruleFindings_of_rule {rule : Rule} (h : c.rulesLike code f = [rule]) :
    f ∈ c.ruleFindings code ↔
      rule.holds (c.measure code) = true ∧ f.message = rule.message (c.measure code) := by
  have hmem (r : Rule) : r = rule ↔ r ∈ c.rules ∧ r.severity = f.severity ∧
      (r.message (c.measure code)).head? = f.message.head? := by
    rw [← List.mem_singleton, ← h, rulesLike, List.mem_filter, decide_eq_true_eq]
  rw [mem_ruleFindings]
  constructor
  · rintro ⟨r, hr, hholds, rfl⟩
    obtain rfl := (hmem r).mpr ⟨hr, rfl, rfl⟩
    exact ⟨hholds, rfl⟩
  · rintro ⟨hholds, hmessage⟩
    obtain ⟨hr, hseverity, -⟩ := (hmem rule).mp rfl
    exact ⟨rule, hr, hholds, by rw [hseverity, ← hmessage]⟩

/-- Without an audit, all findings come from rules. -/
theorem findings_classify (h : c.audit code = []) :
    (c.classify code).findings = c.ruleFindings code := by
  rw [classify, h, List.append_nil]

/-- A fixed finding that one rule alone may lead to is made exactly where something occurs. -/
theorem mem_findings_of_presence {name : String} (haudit : c.audit code = [])
    (hrule : c.rulesLike code f = [Rule.onPresence f.severity name f.message]) :
    f ∈ (c.classify code).findings ↔ 0 < (c.measure code).get name := by
  rw [findings_classify haudit, mem_ruleFindings_of_rule hrule]
  exact (and_iff_left rfl).trans Metrics.has_iff

end Classifier

end ZigAdvisor
