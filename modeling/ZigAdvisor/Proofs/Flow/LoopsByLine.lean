import ZigAdvisor.Proofs.Flow.Complexity
import ZigAdvisor.Proofs.Flow.Growth
import ZigAdvisor.Proofs.Text.CommentLines

/-!
# Loops counted line by line

The depth of loops is read off whole lines, and loops are counted by a search for their headers. A
line that opens a loop goes at most one deeper, and a search finds the headers of all lines apart
(`sum_count_lines_le`). So a text is deeper than it has loops only by lines that open a loop with no
header in them, as a keyword in a comment does (`maxLoopDepth_le_loops_add`).
-/

namespace ZigAdvisor

open Text

namespace Text

def opensUnheaded (line : Text) : Bool := line.opensLoop && !Pattern.anyLoop.occursIn line

end Text

namespace Pattern

variable {p : Pattern} {A B : Text}

/-- A match that ends in the first of two texts is found there in both together. -/
theorem mem_stops_append {stop : ℕ} (hp : p.consumes = true) (hlexical : p.Lexical)
    (htogether : p.EndsTogether) (h : stop ∈ p.stops A) :
    stop ≤ A.length ∧ stop ∈ p.stops (A ++ B) := by
  obtain ⟨a, m, rest, rfl, -, hspan, rfl⟩ := spans_of_mem_stops hp h
  have hend := mem_stops hp htogether (hlexical.any_rest hspan (rest ++ B))
  refine ⟨?_, by simpa only [List.append_assoc] using hend⟩
  rw [List.length_append, List.length_append]
  omega

/-- A match in the second of two texts is found in both together, if it is one behind the first. -/
theorem add_mem_stops_append {stop : ℕ} (hp : p.consumes = true) (htogether : p.EndsTogether)
    (hbehind : ∀ m rest, p.Spans none m rest → p.Spans (lastOr none A) m rest)
    (h : stop ∈ p.stops B) : A.length < A.length + stop ∧ A.length + stop ∈ p.stops (A ++ B) := by
  obtain ⟨a, m, rest, rfl, hne, hspan, rfl⟩ := spans_of_mem_stops hp h
  have hspan' : p.Spans (lastOr none (A ++ a)) m rest := by
    rw [lastOr_append]
    rcases eq_or_ne a [] with rfl | ha
    · exact hbehind m rest hspan
    · rwa [lastOr_eq_of_ne_nil ha]
  have hend := mem_stops hp htogether hspan'
  rw [List.length_append, Nat.add_assoc, List.append_assoc] at hend
  have hpos := List.length_pos_iff.mpr hne
  exact ⟨by omega, hend⟩

/-- If matches that overlap end together, a search finds in two texts together what it finds in each
of them. -/
theorem count_add_le (hp : p.consumes = true) (hlexical : p.Lexical) (htogether : p.EndsTogether)
    (hbehind : ∀ m rest, p.Spans none m rest → p.Spans (lastOr none A) m rest) :
    p.count A + p.count B ≤ p.count (A ++ B) := by
  have hfirst : ∀ stop ∈ p.stops A, stop ≤ A.length ∧ stop ∈ p.stops (A ++ B) :=
    fun _ => mem_stops_append hp hlexical htogether
  have hsecond : ∀ stop ∈ (p.stops B).map (A.length + ·),
      A.length < stop ∧ stop ∈ p.stops (A ++ B) := by
    rw [List.forall_mem_map]
    exact fun _ => add_mem_stops_append hp htogether hbehind
  have hnodup : (p.stops A ++ (p.stops B).map (A.length + ·)).Nodup := by
    rw [List.nodup_append]
    refine ⟨nodup_stops hp A, (nodup_stops hp B).map (add_right_injective A.length), ?_⟩
    intro stop h stop' h'
    have := (hfirst stop h).1
    have := (hsecond stop' h').1
    omega
  have hsubset : p.stops A ++ (p.stops B).map (A.length + ·) ⊆ p.stops (A ++ B) := by
    rw [List.append_subset]
    exact ⟨fun stop h => (hfirst stop h).2, fun stop h => (hsecond stop h).2⟩
  have hlen := (List.subperm_of_subset hnodup hsubset).length_le
  rwa [List.length_append, List.length_map, length_stops, length_stops, length_stops] at hlen

theorem count_anyLoop_add_le (hA : ¬ AfterWord (lastOr none A)) :
    anyLoop.count A + anyLoop.count B ≤ anyLoop.count (A ++ B) := by
  refine count_add_le rfl (lexical_loopHeader areWords_loop)
    (endsAt_loopHeader areWords_loop).endsTogether fun m rest h => ?_
  exact (spans_loopHeader areWords_loop).mpr ⟨hA, ((spans_loopHeader areWords_loop).mp h).2⟩

/-- A search finds the headers of each line. -/
theorem sum_count_lines_le (t : Text) : (t.lines.map anyLoop.count).sum ≤ anyLoop.count t := by
  induction hn : t.length using Nat.strong_induction_on generalizing t with
  | _ n ih =>
    by_cases ht : t = []
    · subst ht
      rfl
    · obtain ⟨line, boundary, rest, rfl, hlines, hboundary, hend⟩ := exists_lines_eq_cons ht
      rw [hlines, List.map_cons, List.sum_cons]
      rcases List.eq_nil_or_concat' boundary with rfl | ⟨front, c, rfl⟩
      · obtain rfl := hend rfl
        simp [lines]
      · have hc : c.isLineBreak = true := hboundary c (by simp)
        have hrest : (rest.lines.map anyLoop.count).sum ≤ anyLoop.count rest := by
          apply ih rest.length _ rest rfl
          rw [← hn, List.length_append, List.length_append, List.length_append,
            List.length_singleton]
          omega
        have hboth : anyLoop.count (line ++ (front ++ [c])) + anyLoop.count rest ≤
            anyLoop.count (line ++ (front ++ [c]) ++ rest) := by
          apply count_anyLoop_add_le
          rw [← List.append_assoc, lastOr_concat]
          apply not_afterWord_some
          exact CodePoint.isWord_eq_false_of_isBlank (CodePoint.isBlank_of_isLineBreak hc)
        have hline := count_loopHeader_le_append line (front ++ [c]) areWords_loop
        calc anyLoop.count line + (rest.lines.map anyLoop.count).sum
          _ ≤ anyLoop.count (line ++ (front ++ [c])) + anyLoop.count rest :=
            Nat.add_le_add hline hrest
          _ ≤ anyLoop.count (line ++ (front ++ [c]) ++ rest) := hboth

end Pattern

namespace LoopDepth

/-- No depth is greater than the number of lines that open a loop. -/
theorem run_le_countP (lines : List Text) :
    (run lines).current ≤ lines.countP Text.opensLoop ∧
      (run lines).deepest ≤ lines.countP Text.opensLoop := by
  induction lines using List.reverseRecOn with
  | nil => exact ⟨le_rfl, le_rfl⟩
  | append_singleton lines line ih =>
    rw [run, List.foldl_concat, ← run, List.countP_append, List.countP_singleton, step]
    by_cases hopens : line.opensLoop = true
    · rw [if_pos hopens, if_pos hopens]
      have hcurrent := Nat.add_le_add_right ih.1 1
      exact ⟨hcurrent, max_le (ih.2.trans (Nat.le_add_right _ 1)) hcurrent⟩
    · rw [if_neg hopens, if_neg hopens]
      by_cases hcloses : line.closesBlock = true
      · rw [if_pos hcloses]
        exact ⟨(Nat.sub_le _ 1).trans ih.1, ih.2⟩
      · rw [if_neg hcloses]
        exact ih

theorem deepest_run_eq_zero_iff (lines : List Text) :
    (run lines).deepest = 0 ↔ ∀ line ∈ lines, line.opensLoop = false := by
  induction lines using List.reverseRecOn with
  | nil => simp [run]
  | append_singleton lines line ih =>
    rw [run, List.foldl_concat, ← run, deepest_step, List.forall_mem_append, ← ih,
      List.forall_mem_singleton]
    by_cases hopens : line.opensLoop = true
    · rw [if_pos hopens, hopens]
      simp
    · rw [if_neg hopens]
      simp [hopens]

end LoopDepth

theorem opensUnheaded_iff {line : Text} : line.opensUnheaded = true ↔
    line.opensLoop = true ∧ Pattern.anyLoop.count line = 0 := by
  have hcount : 0 < Pattern.anyLoop.count line ↔ Pattern.anyLoop.occursIn line :=
    Pattern.count_pos_iff fun _ _ h => (Pattern.lexical_loopHeader areWords_loop).ne_nil h rfl
  rw [Text.opensUnheaded, Bool.and_eq_true, Bool.not_eq_true', ← Bool.not_eq_true, ← hcount,
    Nat.pos_iff_ne_zero, not_not]

/-- A line by itself is deeper than it has loops if it opens one without a header. -/
theorem loops_lt_maxLoopDepth_line_iff {line : Text} (h : ∀ c ∈ line, c.isLineBreak = false) :
    (Complexity.measure line).get "loops" < maxLoopDepth line ↔ line.opensUnheaded = true := by
  rw [Complexity.get_loops, opensUnheaded_iff]
  by_cases hnil : line = []
  · subst hnil
    exact iff_of_false (Nat.not_lt_zero _) fun hopens => absurd hopens.1 (by decide)
  · rw [maxLoopDepth, Text.lines_of_forall hnil h, LoopDepth.run, List.foldl_cons, List.foldl_nil,
      LoopDepth.deepest_step]
    by_cases hopens : line.opensLoop = true
    · rw [if_pos hopens, and_iff_right hopens]
      exact Nat.lt_one_iff
    · rw [if_neg hopens]
      exact iff_of_false (Nat.not_lt_zero _) fun h => hopens h.1

theorem countP_opensLoop_le (lines : List Text) : lines.countP Text.opensLoop ≤
    (lines.map Pattern.anyLoop.count).sum + lines.countP Text.opensUnheaded := by
  induction lines with
  | nil => exact le_rfl
  | cons line lines ih =>
    rw [List.map_cons, List.sum_cons, List.countP_cons, List.countP_cons]
    by_cases hunheaded : line.opensUnheaded = true
    · rw [if_pos hunheaded, if_pos (opensUnheaded_iff.mp hunheaded).1]
      omega
    · rw [if_neg hunheaded]
      by_cases hopens : line.opensLoop = true
      · have hpos : Pattern.anyLoop.count line ≠ 0 := fun h =>
          hunheaded (opensUnheaded_iff.mpr ⟨hopens, h⟩)
        rw [if_pos hopens]
        omega
      · rw [if_neg hopens]
        omega

/-- A text is deeper than it has loops only by the lines that open a loop with no header in them,
which are those that are so by themselves. It has depth zero if no line opens a loop at all. -/
theorem maxLoopDepth_le_loops_add (code : Text) :
    maxLoopDepth code ≤ (Complexity.measure code).get "loops" + code.lines.countP opensUnheaded ∧
      (∀ line ∈ code.lines, line.opensUnheaded = true ↔
        (Complexity.measure line).get "loops" < maxLoopDepth line) ∧
      (maxLoopDepth code = 0 ↔ ∀ line ∈ code.lines, line.opensLoop = false) := by
  refine ⟨?_, fun line hline => ?_, LoopDepth.deepest_run_eq_zero_iff code.lines⟩
  · rw [Complexity.get_loops]
    calc maxLoopDepth code
      _ ≤ code.lines.countP Text.opensLoop := (LoopDepth.run_le_countP code.lines).2
      _ ≤ (code.lines.map Pattern.anyLoop.count).sum + code.lines.countP opensUnheaded :=
        countP_opensLoop_le code.lines
      _ ≤ Pattern.anyLoop.count code + code.lines.countP opensUnheaded :=
        Nat.add_le_add_right (Pattern.sum_count_lines_le code) _
  · exact (loops_lt_maxLoopDepth_line_iff (isLineBreak_of_mem_lines hline)).symm

/-- A comment with the word for a loop and a brace is one deep without a loop. -/
theorem loops_lt_maxLoopDepth : ∃ code : Text,
    (Complexity.measure code).get "loops" = 0 ∧ maxLoopDepth code = 1 := by
  refine ⟨"// wait for \x7b", ?_, ?_⟩
  · rw [Complexity.get_loops]
    decide +kernel
  · decide +kernel

end ZigAdvisor
