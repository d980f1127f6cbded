import ZigAdvisor.Flow.LoopDepth
import ZigAdvisor.Proofs.Text.Lines
import ZigAdvisor.Proofs.Text.Word

/-!
# Lines that open a loop

A line opens a loop exactly if a brace stands behind one of its loop keywords, whichever comes first
(`Text.opensLoop_iff`). So a line without an opening brace opens none, and a line that opens one
still does if it goes on. The greatest depth never falls from line to line, so a text is at least as
deep as its beginning (`maxLoopDepth_le_append`).
-/

namespace ZigAdvisor

open Text

variable {before : Option CodePoint} {m rest t : Text} {k : String}

def loopKeywords : List String := ["for", "while"]

theorem areWords_loop : AreWords loopKeywords := by decide

namespace Pattern

theorem spans_loopKeyword : loopKeyword.Spans before m rest ↔
    ∃ k ∈ loopKeywords, m = ofString k ∧ ¬ AfterWord before ∧ ¬ AfterWord rest.head? := by
  have hany {before m rest} : (anyOf [lit "for", lit "while"]).Spans before m rest ↔
      ∃ k ∈ loopKeywords, m = ofString k := by
    rw [show anyOf [lit "for", lit "while"] =
      anyOf (loopKeywords.map fun w => lit (ofString w)) from rfl, spans_anyOf]
  rw [show loopKeyword = seq wordEdge (seq (anyOf [lit "for", lit "while"]) wordEdge) from rfl,
    spans_wholeWord, hany]
  · constructor
    · rintro ⟨⟨k, hk, rfl⟩, houtside⟩
      exact ⟨k, hk, rfl, houtside⟩
    · rintro ⟨k, hk, rfl, houtside⟩
      exact ⟨⟨k, hk, rfl⟩, houtside⟩
  · intro before m rest h
    obtain ⟨k, hk, rfl⟩ := hany.mp h
    exact areWords_loop k hk

end Pattern

namespace Text

/-- A line opens a loop exactly if a brace stands behind one of its loop keywords. -/
theorem opensLoop_iff : t.opensLoop = true ↔ ∃ a k b, t = a ++ (ofString k ++ b) ∧
    k ∈ loopKeywords ∧ ¬ AfterWord (lastOr none a) ∧ ¬ AfterWord b.head? ∧
      ('{' : CodePoint) ∈ b := by
  constructor
  · intro h
    rw [opensLoop] at h
    split at h
    · next e he =>
      obtain ⟨a, m, rfl, hspan, -⟩ := Pattern.find?_eq_some he
      obtain ⟨k, hk, rfl, hbefore, hbehind⟩ := Pattern.spans_loopKeyword.mp hspan
      exact ⟨a, k, e.rest, rfl, hk, hbefore, hbehind, by simpa using h⟩
    · simp at h
  · rintro ⟨a, k, b, rfl, hk, hbefore, hbehind, hbrace⟩
    have hspan : Pattern.loopKeyword.Spans (lastOr none a) (ofString k) b :=
      Pattern.spans_loopKeyword.mpr ⟨k, hk, rfl, hbefore, hbehind⟩
    have hfound : (Pattern.loopKeyword.find? (a ++ (ofString k ++ b))).isSome :=
      Pattern.occursIn_iff.mpr ⟨a, ofString k, b, rfl, hspan⟩
    obtain ⟨e, he⟩ := Option.isSome_iff_exists.mp hfound
    obtain ⟨a', m, ht, hspan', hfirst⟩ := Pattern.find?_eq_some he
    -- The keyword that is found comes first and has no brace, so the brace stands behind it.
    obtain ⟨k', hk', rfl, -, -⟩ := Pattern.spans_loopKeyword.mp hspan'
    obtain ⟨c, rfl⟩ := hfirst a _ b rfl hspan
    have hletters : ∀ k ∈ loopKeywords, ('{' : CodePoint) ∉ ofString k := by decide
    have hrest : ('{' : CodePoint) ∈ ofString k' ++ e.rest := by
      rw [List.append_assoc] at ht
      rw [← List.append_cancel_left ht]
      simp [hbrace]
    rw [opensLoop, he]
    simpa using (List.mem_append.mp hrest).resolve_left (hletters k' hk')

/-- A line without an opening brace opens no loop. -/
theorem opensLoop_eq_false (h : ('{' : CodePoint) ∉ t) : t.opensLoop = false := by
  rw [Bool.eq_false_iff]
  intro hopens
  obtain ⟨a, k, b, rfl, -, -, -, hbrace⟩ := opensLoop_iff.mp hopens
  exact h (by simp [hbrace])

/-- A line with a loop keyword and a brace at its end opens a loop. -/
theorem opensLoop_of_hasWord (hk : k ∈ loopKeywords) (hword : HasWord (ofString k) t)
    (hbrace : t.getLast? = some ('{' : CodePoint)) : t.opensLoop = true := by
  obtain ⟨a, b, rfl, hbefore, hbehind⟩ := hword
  refine opensLoop_iff.mpr ⟨a, k, b, rfl, hk, hbefore, hbehind, ?_⟩
  -- The keyword does not end in a brace.
  have hletters : ∀ k ∈ loopKeywords, (ofString k).getLast? ≠ some ('{' : CodePoint) ∧
      ofString k ≠ [] := by decide
  rcases List.eq_nil_or_concat' b with rfl | ⟨s, c, rfl⟩
  · rw [List.append_nil, List.getLast?_append_of_ne_nil _ (hletters k hk).2] at hbrace
    exact absurd hbrace (hletters k hk).1
  · rw [← List.append_assoc, ← List.append_assoc, List.getLast?_concat] at hbrace
    simp [Option.some.inj hbrace]

/-- A line that opens a loop still opens one if it goes on. -/
theorem opensLoop_append (h : t.opensLoop = true) (s : Text) : (t ++ s).opensLoop = true := by
  obtain ⟨a, k, b, rfl, hk, hbefore, hbehind, hbrace⟩ := opensLoop_iff.mp h
  refine opensLoop_iff.mpr ⟨a, k, b ++ s, ?_, hk, hbefore, ?_, List.mem_append_left s hbrace⟩
  · rw [List.append_assoc, List.append_assoc]
  · rwa [List.head?_append_of_ne_nil b (List.ne_nil_of_mem hbrace)]

end Text

namespace LoopDepth

variable {d : LoopDepth} {line : Text}

theorem deepest_step : (d.step line).deepest =
    if line.opensLoop then max d.deepest (d.current + 1) else d.deepest := by
  rw [step]
  split_ifs <;> rfl

theorem deepest_le_step (d : LoopDepth) (line : Text) : d.deepest ≤ (d.step line).deepest := by
  rw [deepest_step]
  split_ifs
  · exact le_max_left _ _
  · exact le_rfl

theorem deepest_le_foldl (lines : List Text) (d : LoopDepth) :
    d.deepest ≤ (lines.foldl step d).deepest := by
  induction lines generalizing d with
  | nil => exact le_rfl
  | cons line lines ih => exact (deepest_le_step d line).trans (ih _)

/-- A line that goes on leads at least as deep. -/
theorem deepest_step_append (d : LoopDepth) (line s : Text) :
    (d.step line).deepest ≤ (d.step (line ++ s)).deepest := by
  by_cases h : line.opensLoop = true
  · rw [deepest_step, deepest_step, if_pos h, if_pos (Text.opensLoop_append h s)]
  · rw [deepest_step, if_neg h]
    exact deepest_le_step d _

end LoopDepth

theorem maxLoopDepth_le_append (A B : Text) : maxLoopDepth A ≤ maxLoopDepth (A ++ B) := by
  rcases eq_or_ne A [] with rfl | hA
  · exact Nat.zero_le _
  · obtain ⟨front, last, behind, others, hlines, happend⟩ := Text.exists_lines_append hA B
    rw [maxLoopDepth, maxLoopDepth, LoopDepth.run, LoopDepth.run, hlines, happend,
      List.foldl_append, List.foldl_append, List.foldl_cons, List.foldl_nil, List.foldl_cons]
    exact (LoopDepth.deepest_step_append _ last behind).trans (LoopDepth.deepest_le_foldl others _)

end ZigAdvisor
