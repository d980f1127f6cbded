import ZigAdvisor.Estimate.Basic
import ZigAdvisor.Flow.Complexity
import ZigAdvisor.Flow.LoopDepth

/-!
# Running time

Loops, recursion and the built-in functions that make up for them.
-/

namespace ZigAdvisor.RunningTime

def notes : List Note := [
  ⟨(·.has "vector_operations"), "SIMD vectorization detected"⟩,
  ⟨(·.has "builtin_math"), "Optimized builtin math functions used"⟩,
  ⟨(·.has "memory_ops"), "Optimized memory operations detected"⟩,
  ⟨(·.has "simd_reductions"), "Vector reductions for parallel computation"⟩,
  ⟨(·.has "parallelizable"), "Potential for parallel execution"⟩]

def lines (m : Metrics) (depth : Nat) : List Text := [
  .concat ["Estimated Complexity: ", (Complexity.estimate m).label,
    " (heuristic estimate from loop patterns)"],
  m.line "Loop Count" "loops" "",
  m.line "Nested Loops" "nested_loops" "",
  .concat ["Max Loop Nesting Depth: ", .ofNat depth, " (line-based approximation)"],
  m.line "Recursive Patterns" "recursion" " detected",
  m.line "Vector Operations" "vector_operations" " (SIMD optimization opportunities)",
  m.line "Builtin Math Functions" "builtin_math" " (hardware-optimized)",
  m.line "Memory Operations" "memory_ops" " (optimized bulk operations)",
  m.line "SIMD Reductions" "simd_reductions" " (parallel reductions)",
  m.line "Threading/Atomic Operations" "parallelizable" " (parallelization potential)"]

def estimate (code : Text) : Text :=
  let m := Complexity.measure code
  Text.withNotes (lines m (maxLoopDepth code)) "Optimization Notes" (Note.select notes m)

end ZigAdvisor.RunningTime
