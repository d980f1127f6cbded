import ZigAdvisor.Pattern.Metric
import ZigAdvisor.Proofs.Number.Digits
import ZigAdvisor.Proofs.Pattern.Counting
import ZigAdvisor.Proofs.Review.FileFigures
import ZigAdvisor.Proofs.Text.Word
import ZigAdvisor.Review.Concurrency
import ZigAdvisor.Review.FileMetrics
import ZigAdvisor.Review.Idioms
import ZigAdvisor.Review.Interop
import ZigAdvisor.Review.Modernity
import ZigAdvisor.Review.Performance
import ZigAdvisor.Review.Rule

/-!
# Two tables on one construct

Several constructs are looked for by two reviews, with patterns that differ. Where the one is
found the other is found too, so a report does not count test blocks and miss tests at the same
time, and what one review calls an arithmetic loop, a small function or a list is one for the
other.
-/

namespace ZigAdvisor

open Text

namespace Pattern

variable {words words' : List String}

theorem isName_of_spans_anyOf (hwords : AreWords words) {before : Option CodePoint}
    {m rest : Text} (h : (anyOf (words.map fun w => lit (ofString w))).Spans before m rest) :
    IsName m := by
  obtain ⟨w, hw, rfl⟩ := spans_anyOf.mp h
  exact hwords w hw

/-- A pattern for some whole words finds no more of them than one for more words. -/
theorem count_wholeWord_le (hwords : AreWords words) (hsub : words' ⊆ words)
    (hconsumes : (anyOf (words.map fun w => lit (ofString w))).consumes = true)
    (hconsumes' : (anyOf (words'.map fun w => lit (ofString w))).consumes = true) (t : Text) :
    (seq wordEdge (seq (anyOf (words'.map fun w => lit (ofString w))) wordEdge)).count t ≤
      (seq wordEdge (seq (anyOf (words.map fun w => lit (ofString w))) wordEdge)).count t := by
  apply count_le_of_finishes
  · simp [consumes, hconsumes']
  · simp [consumes, hconsumes]
  · exact endsTogether_wholeWord (isName_of_spans_anyOf hwords)
  · intro before m rest h
    have hwords' : AreWords words' := fun w hw => hwords w (hsub hw)
    obtain ⟨hspan, houtside⟩ := (spans_wholeWord (isName_of_spans_anyOf hwords')).mp h
    obtain ⟨w, hw, rfl⟩ := spans_anyOf.mp hspan
    refine ⟨[], ofString w, rfl, ?_⟩
    exact (spans_wholeWord (isName_of_spans_anyOf hwords)).mpr
      ⟨spans_anyOf.mpr ⟨w, hsub hw, rfl⟩, houtside⟩

/-- A small function of some length is one of every greater length. -/
theorem narrows_smallFunction {most most' : ℕ} (h : most ≤ most') :
    (Optimization.smallFunction most).Narrows (Optimization.smallFunction most') := by
  apply Narrows.inOrder
  simp only [List.forall₂_cons, List.forall₂_nil_left_iff, narrows_refl, narrows_many h, and_self]

/-- A call of a function of the C library is a reference to the library. -/
theorem begins_calls :
    (inOrder ["std.c.", anyOf ["malloc", "free"], blanks, "("]).Begins
      (inOrder ["std.c.", name]) := by
  have hnames : AreWords ["malloc", "free"] := by decide
  intro before m rest h
  obtain ⟨_, rfl, x, y, rfl, hx, -⟩ := spans_lit_seq.mp h
  have hname : IsName x := isName_of_spans_anyOf hnames hx
  refine ⟨ofString "std.c." ++ x, y, by rw [List.append_assoc], ?_⟩
  exact spans_lit_seq.mpr ⟨x, rfl, spans_name.mpr hname⟩

end Pattern

namespace Classifier

variable {c : Classifier} {code message : Text}

/-- Without an audit, what a report says comes from a rule that holds. -/
theorem exists_rule_of_message (haudit : c.audit code = [])
    (h : message ∈ (c.classify code).messages) : ∃ rule ∈ c.rules,
      rule.holds (c.measure code) = true ∧ rule.message (c.measure code) = message := by
  obtain ⟨f, hf, rfl⟩ := List.mem_map.mp h
  rw [findings_classify haudit, mem_ruleFindings] at hf
  obtain ⟨rule, hrule, hholds, rfl⟩ := hf
  exact ⟨rule, hrule, hholds, rfl⟩

end Classifier

namespace Testing

def blockCount (n : ℕ) : Text := .concat [.ofNat n, " test block(s) found"]

theorem isAsciiDigit_blockCount (n : ℕ) :
    (blockCount n).head?.any CodePoint.isAsciiDigit = true := by
  obtain ⟨c, digits, hc⟩ := List.exists_cons_of_ne_nil (ofNat_ne_nil (n := n))
  rw [blockCount, concat_cons, hc]
  exact isAsciiDigit_of_mem_ofNat (n := n) (hc ▸ List.mem_cons_self)

/-- Test blocks that are reported have been found. -/
theorem has_test_blocks {code : Text} {n : ℕ}
    (h : blockCount n ∈ (classifier.classify code).messages) :
    (Metric.measure metrics code).has "test_blocks" = true := by
  obtain ⟨rule, hrule, hholds, hmessage⟩ := Classifier.exists_rule_of_message rfl h
  have hdigit := isAsciiDigit_blockCount n
  rw [← hmessage] at hdigit
  -- The other messages begin with letters.
  fin_cases hrule
  case «1» => exact hholds
  all_goals exact (Bool.false_ne_true hdigit).elim

end Testing

namespace FileMetrics

variable {code : Text}

def noTests : Text := "No tests alongside these functions"

/-- Where tests are missed none have been found. -/
theorem lacks_tests (h : noTests ∈ (classifier.classify code).messages) :
    (Metric.measure metrics code).lacks "tests" = true := by
  obtain ⟨rule, hrule, hholds, hmessage⟩ := Classifier.exists_rule_of_message rfl h
  have hhead : (rule.message (measure code)).head? = noTests.head? := congrArg _ hmessage
  -- The other messages begin with other letters.
  fin_cases hrule
  case «10» =>
    have hlacks : (measure code).lacks "tests" = true := ((Bool.and_eq_true _ _).mp hholds).2
    have hget : (measure code).get "tests" = (Metric.measure metrics code).get "tests" :=
      get_of_lookup rfl
    rw [Metrics.lacks, ← hget]
    exact hlacks
  all_goals exact absurd (Option.some.inj hhead) (by decide)

end FileMetrics

/-- What two reviews that look for one construct find of it in a source text. The reports of the
first two are compared as well. -/
structure ReviewsAgree (code : Text) : Prop where
  tests : 0 < (Metric.measure Testing.metrics code).get "test_blocks" →
    0 < (FileMetrics.measure code).get "tests"
  messages : ∀ n, ¬ (FileMetrics.noTests ∈ (FileMetrics.classifier.classify code).messages ∧
    Testing.blockCount n ∈ (Testing.classifier.classify code).messages)
  async : (Metric.measure Modernity.metrics code).get "async_await" ≤
    (Metric.measure Concurrency.metrics code).get "async_await"
  arithmeticLoops : 0 < (Metric.measure Optimization.metrics code).get "arith_loop" →
    0 < (Performance.measure code).get "arith_loop"
  smallFunctions : 0 < (Metric.measure Optimization.metrics code).get "small_fn" →
    0 < (Performance.measure code).get "small_fn"
  lists : 0 < (Performance.measure code).get "array_list" →
    0 < (Metric.measure Idioms.metrics code).get "array_list" ∧
      0 < (Metric.measure Optimization.metrics code).get "array_list"
  calls : 0 < (Metric.measure Interop.metrics code).get "c_malloc" →
    0 < (Metric.measure Interop.metrics code).get "std_c"

theorem tests_of_test_blocks {code : Text}
    (h : 0 < (Metric.measure Testing.metrics code).get "test_blocks") :
    0 < (Metric.measure FileMetrics.metrics code).get "tests" := by
  refine Pattern.count_pos_of_begins rfl rfl ?_ h
  exact (Pattern.begins_seq _ _).alt (Pattern.narrows_refl _).begins

theorem Performance.get_of_lookup {name : String} {n : ℕ} {code : Text}
    (h : (Metric.measure metrics code).lookup name = some n) : (measure code).get name = n := by
  rw [measure, List.append_assoc]
  exact Metrics.get_append_of_lookup h _

/-- Where two reviews look for one construct, what the one finds the other finds too. -/
theorem reviews_agree (code : Text) : ReviewsAgree code where
  tests := by
    intro h
    rw [FileMetrics.get_of_lookup rfl]
    exact tests_of_test_blocks h
  messages := by
    rintro n ⟨hnone, hsome⟩
    have htests := tests_of_test_blocks (Metrics.has_iff.mp (Testing.has_test_blocks hsome))
    have hlacks := FileMetrics.lacks_tests hnone
    rw [Metrics.lacks, beq_iff_eq] at hlacks
    exact htests.ne' hlacks
  async := by
    have hwords : AreWords ["async", "await", "suspend", "resume", "nosuspend"] := by
      decide +kernel
    have hsub : ["async", "await", "suspend", "nosuspend"] ⊆
        ["async", "await", "suspend", "resume", "nosuspend"] := by decide
    exact Pattern.count_wholeWord_le hwords hsub rfl rfl code
  arithmeticLoops := by
    intro h
    rw [Performance.get_of_lookup rfl]
    exact Pattern.count_pos_of_begins rfl rfl (Pattern.begins_seq _ _) h
  smallFunctions := by
    intro h
    rw [Performance.get_of_lookup rfl]
    have hlength : 50 ≤ 100 := by decide
    exact Pattern.count_pos_of_begins rfl rfl (Pattern.narrows_smallFunction hlength).begins h
  lists := by
    intro h
    rw [Performance.get_of_lookup rfl] at h
    have hlist := Pattern.count_pos_of_begins rfl rfl (Pattern.begins_seq _ _) h
    exact ⟨hlist, hlist⟩
  calls := Pattern.count_pos_of_begins rfl rfl Pattern.begins_calls

theorem reviews_agree_block :
    0 < (Metric.measure Testing.metrics "test \"sum\" \x7b").get "test_blocks" ∧
      0 < (FileMetrics.measure "test \"sum\" \x7b").get "tests" := by
  have hfound : 0 < (Metric.measure Testing.metrics "test \"sum\" \x7b").get "test_blocks" := by
    decide +kernel
  exact ⟨hfound, (reviews_agree _).tests hfound⟩

end ZigAdvisor
