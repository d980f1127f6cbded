import ZigAdvisor.Review.Rule

/-!
# Safety

Risks of undefined behaviour and gaps in error handling.
-/

namespace ZigAdvisor.Safety

def metrics : List Metric := [
  ⟨"error_void", "!void"⟩,
  ⟨"try_expr", .word "try"⟩,
  ⟨"undefined", .word "undefined"⟩,
  ⟨"ptr_cast", .call "@ptrCast"⟩,
  ⟨"int_cast", .call "@intCast"⟩,
  ⟨"range_check", .anyOf [.call "std.math.cast", "maxInt", "minInt"]⟩,
  ⟨"unreachable", .word "unreachable"⟩,
  ⟨"catch_unreachable", .inOrder ["catch", .gap, "unreachable"]⟩,
  ⟨"runtime_safety_off",
    .inOrder [.call "@setRuntimeSafety", .blanks, "false", .blanks, ")"]⟩,
  ⟨"force_unwrap", ".?"⟩,
  ⟨"errdefer", .word "errdefer"⟩,
  ⟨"align_cast", .call "@alignCast"⟩]

open Severity Rule in
def rules : List Rule := [
  onCondition warning (fun m => m.has "error_void" && m.lacks "try_expr")
    "Add error handling for functions that can fail",
  onPresence warning "undefined"
    "Initialize variables explicitly instead of using undefined",
  onPresence warning "ptr_cast" "Review pointer casts for safety implications",
  onCondition suggestion (fun m => m.has "int_cast" && m.lacks "range_check")
    "Check ranges before @intCast or use std.math.cast for fallible narrowing",
  onPresence suggestion "unreachable" "Ensure unreachable paths are truly unreachable",
  onPresence critical "catch_unreachable"
    ("catch unreachable turns errors into undefined behavior in release builds; " ++
      "handle or propagate the error"),
  onPresence critical "runtime_safety_off"
    ("@setRuntimeSafety(false) removes bounds and overflow checks; " ++
      "limit it to measured hot paths"),
  ⟨suggestion, (·.has "force_unwrap"), fun m =>
    .concat ["Replace forced unwraps (.?) with orelse or if captures (",
      .ofNat (m.get "force_unwrap"), " found)"]⟩,
  onCondition warning (fun m => m.has "align_cast" && m.has "ptr_cast")
    "Verify source alignment before combining @alignCast with @ptrCast",
  onPresence strength "errdefer" "Uses errdefer for error-path cleanup"]

def classifier : Classifier where
  name := "safety"
  title := "Safety Considerations"
  allClear := "Code appears to follow safe practices"
  measure := Metric.measure metrics
  rules := rules
  audit _ := []

end ZigAdvisor.Safety
