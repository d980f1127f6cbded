import ZigAdvisor.Proofs.Flow.Growth
import ZigAdvisor.Proofs.Number.Shortest
import ZigAdvisor.Proofs.Review.Measured
import ZigAdvisor.Proofs.Text.CommentLines

/-!
# Figures of a file that fit together

The figures of a file come from two notions of a line and from searches that know nothing of each
other. They fit together nevertheless: code and comments are no more than all lines, public
functions are functions, and the quotients stay within their bounds.
-/

namespace ZigAdvisor

open Text

namespace Pattern

theorem endsAt_functionHeader : functionHeader.EndsAt IsEnd := by
  intro before m rest h
  obtain ⟨-, name, hm⟩ := spans_functionHeader.mp h
  obtain ⟨n, rfl, hn⟩ := hm.exists_concat
  exact ⟨n, _, rfl, Or.inr rfl, hn⟩

/-- The header of a public function ends with the header of a function. -/
theorem finishes_publicFunction :
    (inOrder [wordEdge, "pub", gap, "fn", gap, name, blanks, "("]).Finishes functionHeader := by
  intro before m rest h
  obtain ⟨-, hpub⟩ := spans_wordEdge_seq.mp h
  obtain ⟨_, rfl, hbehind⟩ := spans_lit_seq.mp hpub
  obtain ⟨blank, header, rfl, hblank, hheader⟩ := hbehind
  obtain ⟨hne, hblank⟩ := spans_gap.mp hblank
  refine ⟨ofString "pub" ++ blank, header, (List.append_assoc _ _ _).symm, ?_⟩
  rw [lastOr_append]
  apply (spans_wordEdge_word ?_).mpr
  · refine ⟨?_, hheader⟩
    obtain ⟨front, c, rfl⟩ := (List.eq_nil_or_concat' blank).resolve_left hne
    rw [lastOr_concat]
    exact not_afterWord_some (CodePoint.isWord_eq_false_of_isBlank (hblank c (by simp)))
  · intro h
    obtain ⟨name, rfl, -⟩ := spans_lit_seq.mp h
    exact ⟨'f', _, rfl, by decide⟩

end Pattern

namespace FileMetrics

variable {code : Text} {name : String} {n : ℕ}

/-- The counts of the table come first among the figures of a file. -/
theorem get_of_lookup (h : (Metric.measure metrics code).lookup name = some n) :
    (measure code).get name = n := by
  rw [measure, List.append_assoc, List.append_assoc]
  exact Metrics.get_append_of_lookup h _

theorem get_of_lineFigures
    (hname : name ∉ metrics.map Metric.name ++
      (Complexity.metrics.map Metric.name ++ ["nested_loops", "recursion"]))
    (h : (lineFigures code ((Metric.measure metrics code).get "comment_lines")
      ((Metric.measure metrics code).get "functions")).lookup name = some n) :
    (measure code).get name = n := by
  have hcounts : name ∉ (Metric.measure metrics code ++ Complexity.measure code).names := by
    rw [Metrics.names_append, Metric.names_measure, Complexity.names_measure]
    exact hname
  rw [measure, List.append_assoc, Metrics.get_append_of_not_mem hcounts]
  exact Metrics.get_append_of_lookup h _

theorem isCommentLine_of_blank {line : Text} (h : line.isBlank = true) :
    isCommentLine line = false := by
  have htrim : line.trimLeft = [] := by
    rw [isBlank, List.all_eq_true] at h
    exact List.dropWhile_eq_nil_iff.mpr h
  rw [isCommentLine, htrim]
  rfl

/-- Every line is code, a comment or blank. -/
theorem countP_isCodeLine_add (lines : List Text) :
    lines.countP isCodeLine + commentLines lines + lines.countP isBlank = lines.length := by
  induction lines with
  | nil => rfl
  | cons line lines ih =>
    have hcode : isCodeLine line = (!line.isBlank && !isCommentLine line) := rfl
    rw [commentLines] at ih
    rw [commentLines, List.countP_cons, List.countP_cons, List.countP_cons, List.length_cons,
      hcode]
    cases hblank : line.isBlank with
    | true =>
      rw [isCommentLine_of_blank hblank]
      simp only [Bool.not_true, Bool.false_and, Bool.false_eq_true, if_false, if_true]
      omega
    | false =>
      cases isCommentLine line
      all_goals
        simp only [Bool.not_false, Bool.not_true, Bool.and_true, Bool.and_false,
          Bool.false_eq_true, if_false, if_true]
        omega

theorem get_lines : (measure code).get "lines" = code.lines.length :=
  get_of_lineFigures (by decide) rfl

theorem get_code_lines : (measure code).get "code_lines" = code.lines.countP isCodeLine :=
  get_of_lineFigures (by decide) rfl

theorem get_comment_lines : (measure code).get "comment_lines" =
    commentLines (splitAtNewlines code) :=
  (get_of_lookup rfl).trans (Pattern.count_commentStart code)

theorem get_density : (measure code).get "comment_density_pct" =
    if code.lines.isEmpty then 0
    else roundDiv (100 * commentLines (splitAtNewlines code)) code.lines.length := by
  have hcount : (Metric.measure metrics code).get "comment_lines" =
      commentLines (splitAtNewlines code) := Pattern.count_commentStart code
  rw [← hcount]
  exact get_of_lineFigures (by decide) rfl

structure FitTogether (code : Text) : Prop where
  lines : (measure code).get "code_lines" + (measure code).get "comment_lines" ≤
    (measure code).get "lines"
  density : (measure code).get "comment_density_pct" ≤ 100
  published : (measure code).get "pub_functions" ≤ (measure code).get "functions"
  length : (measure code).get "avg_function_length" * (measure code).get "functions" ≤
    (measure code).get "code_lines"
  comments : (measure code).get "comment_lines" = (splitAtNewlines code).countP isCommentLine
  /-- If line feeds are the only boundaries, no line is left out but the blank ones. -/
  blanks : (∀ c ∈ code, c.isLineBreak = true → c = '\n') →
    (measure code).get "lines" = (measure code).get "code_lines" +
      (measure code).get "comment_lines" + code.lines.countP isBlank

/-- The figures of a file fit together, whatever its boundaries of lines. -/
theorem figures_fit (code : Text) : FitTogether code := by
  have hcomments := (commentLines_pieces_le code).1
  have hlines := countP_isCodeLine_add code.lines
  constructor
  case lines =>
    rw [get_lines, get_code_lines, get_comment_lines]
    omega
  case density =>
    rw [get_density]
    split_ifs
    · exact Nat.zero_le _
    · apply roundDiv_le
      apply Nat.mul_le_mul_left
      omega
  case published =>
    have hpub : (measure code).get "pub_functions" =
        (Metric.measure metrics code).get "pub_functions" := get_of_lookup rfl
    have hall : (measure code).get "functions" = (Metric.measure metrics code).get "functions" :=
      get_of_lookup rfl
    rw [hpub, hall]
    exact Pattern.count_le_of_finishes rfl rfl Pattern.endsAt_functionHeader.endsTogether
      Pattern.finishes_publicFunction code
  case length =>
    rw [get_avg_function_length, get_code_lines]
    split_ifs
    · exact (Nat.zero_mul _).trans_le (Nat.zero_le _)
    · exact Nat.div_mul_le_self _ _
  case comments => exact get_comment_lines
  case blanks =>
    intro hfeeds
    rw [get_lines, get_code_lines, get_comment_lines, commentLines_of_feeds hfeeds, hlines]

theorem figures_fit_feeds :
    (∀ c ∈ ofString "// a\n\nb\n", c.isLineBreak = true → c = '\n') ∧
      (measure "// a\n\nb\n").get "lines" = (measure "// a\n\nb\n").get "code_lines" +
        (measure "// a\n\nb\n").get "comment_lines" + 1 := by
  have hfeeds : ∀ c ∈ ofString "// a\n\nb\n", c.isLineBreak = true → c = '\n' := by
    decide +kernel
  exact ⟨hfeeds, (figures_fit _).blanks hfeeds⟩

end FileMetrics

end ZigAdvisor
