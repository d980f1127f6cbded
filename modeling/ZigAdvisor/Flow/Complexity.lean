import ZigAdvisor.Flow.LoopNesting
import ZigAdvisor.Flow.SelfCalls
import ZigAdvisor.Pattern.Metric

/-!
# Time complexity

A rough class of time complexity, read off counts of loops, nested loops and recursive functions.
-/

namespace ZigAdvisor

inductive Complexity
  | constant
  | recursive
  | linear
  | quadratic
deriving DecidableEq

namespace Complexity

def label : Complexity → String
  | constant => "O(1)"
  | recursive => "O(depth) recursion-dependent"
  | linear => "O(n)"
  | quadratic => "O(n²) or worse"

/-- Nested loops decide first, then loops, then recursion. -/
def estimate (m : Metrics) : Complexity :=
  if m.has "nested_loops" then quadratic
  else if m.has "loops" then linear
  else if m.has "recursion" then recursive
  else constant

/-- The header of a loop as it is counted. It tries the keywords in another order than the scan for
nested loops, and finds the same headers (`count_countedLoop`). -/
def countedLoop : Pattern := .loopHeader ["while", "for"]

def metrics : List Metric := [
  ⟨"loops", countedLoop⟩,
  ⟨"vector_operations",
    .inOrder ["@Vector(", .upTo (.except ")") 200, ")", .upTo (.except ";") 200,
      CharSet.of "+-*/"]⟩,
  ⟨"builtin_math",
    .inOrder ["@", .anyOf ["sqrt", "sin", "cos", "exp", "log", "pow"], .blanks, "("]⟩,
  ⟨"memory_ops", .inOrder ["@", .anyOf ["memcpy", "memset", "memmove"], .blanks, "("]⟩,
  ⟨"simd_reductions", .call "@reduce"⟩,
  ⟨"parallelizable", .anyOf ["std.Thread", "std.atomic"]⟩]

def measure (code : Text) : Metrics :=
  Metric.measure metrics code ++
    [("nested_loops", nestedLoops .anyLoop code), ("recursion", recursiveFunctions code)]

end Complexity

end ZigAdvisor
