import ZigAdvisor.Proofs.Flow.Growth
import ZigAdvisor.Proofs.Flow.LoopLines
import ZigAdvisor.Proofs.Review.ComplexityLabel

/-!
# Estimates of a text that goes on

Whatever follows a text, no figure of loops or recursion gets smaller, neither in the estimate of
running time nor in the review of performance, and the class of running time gets no better.
-/

namespace ZigAdvisor

theorem Complexity.get_le_append (A B : Text) : ∀ name ∈ deciding,
    (measure A).get name ≤ (measure (A ++ B)).get name := by
  intro name hname
  fin_cases hname
  · rw [get_nested_loops, get_nested_loops]
    exact nestedLoops_le_append A B areWords_loop
  · rw [get_loops, get_loops]
    exact count_loopHeader_le_append A B areWords_loop
  · rw [get_recursion, get_recursion]
    exact recursiveFunctions_le_append A B

namespace Performance

theorem get_measure {code : Text} {name : String} (hname : name ∈ Complexity.deciding) :
    (measure code).get name = (Complexity.measure code).get name := by
  refine Complexity.get_append hname (Metric.lookup_measure ?_ _)
  revert name
  decide

theorem get_le_append (A B : Text) : ∀ name ∈ "nested_for" :: Complexity.deciding,
    (measure A).get name ≤ (measure (A ++ B)).get name := by
  intro name hname
  rcases List.mem_cons.mp hname with rfl | hname
  · have hfor : Text.AreWords ["for"] := by decide
    rw [get_nested_for, get_nested_for]
    exact nestedLoops_le_append A B hfor
  · rw [get_measure hname, get_measure hname]
    exact Complexity.get_le_append A B name hname

end Performance

/-- Whatever follows a text, its loops, nested loops, recursive functions and depth of loops are at
least as many in the whole, and the class of the whole is no better. -/
theorem complexity_le_append (A B : Text) :
    (∀ name ∈ ["loops", "nested_loops", "recursion"],
      (Complexity.measure A).get name ≤ (Complexity.measure (A ++ B)).get name) ∧
    (∀ name ∈ ["loops", "nested_loops", "nested_for", "recursion"],
      (Performance.measure A).get name ≤ (Performance.measure (A ++ B)).get name) ∧
    maxLoopDepth A ≤ maxLoopDepth (A ++ B) ∧
    Complexity.estimate (Complexity.measure A) ≤
      Complexity.estimate (Complexity.measure (A ++ B)) ∧
    Complexity.estimate (Performance.measure A) ≤
      Complexity.estimate (Performance.measure (A ++ B)) ∧
    Complexity.constant < Complexity.recursive ∧ Complexity.recursive < Complexity.linear ∧
    Complexity.linear < Complexity.quadratic := by
  have hclass := Complexity.estimate_mono (Complexity.get_le_append A B)
  refine ⟨?_, ?_, maxLoopDepth_le_append A B, hclass, ?_, by decide, by decide, by decide⟩
  · intro name hname
    refine Complexity.get_le_append A B name ?_
    revert name
    decide
  · intro name hname
    refine Performance.get_le_append A B name ?_
    revert name
    decide
  · rw [Performance.estimate_measure, Performance.estimate_measure]
    exact hclass

theorem complexity_le_append_cut :
    "nested_for" ∈ ["loops", "nested_loops", "nested_for", "recursion"] ∧
      nestedLoops .forLoop "for (a) for" ≤ nestedLoops .forLoop "for (a) for (b) c;" := by
  refine ⟨by decide, ?_⟩
  rw [← Performance.get_nested_for, ← Performance.get_nested_for]
  exact (complexity_le_append "for (a) for" " (b) c;").2.1 "nested_for" (by decide)

end ZigAdvisor
