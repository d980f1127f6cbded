import ZigAdvisor.Review.Rule

/-!
# Idioms

Common idioms of the language and the habits they replace.
-/

namespace ZigAdvisor.Idioms

def path : Pattern := .many ⟨false, [.word, .point '.']⟩ 1 none

def metrics : List Metric := [
  ⟨"array_list", "std.ArrayList"⟩,
  ⟨"deinit", .word "deinit"⟩,
  ⟨"infinite_while",
    .inOrder ["while", .blanks, "(", .blanks, "true", .blanks, ")"]⟩,
  ⟨"alloc_print", "std.fmt.allocPrint"⟩,
  ⟨"panic", .call "@panic"⟩,
  ⟨"mem_eql_u8", .inOrder ["std.mem.eql(", .blanks, "u8", .blanks, ","]⟩,
  ⟨"defer_deinit", .inOrder [.wordEdge, "defer", .gap, path, ".deinit("]⟩,
  ⟨"tagged_union",
    .inOrder [.wordEdge, "union", .blanks, "(", .blanks, "enum", .blanks, ")"]⟩,
  ⟨"error_switch",
    .inOrder ["catch", .blanks, "|", .blanks, .name, .blanks, "|", .blanks, "switch"]⟩,
  ⟨"optional_capture",
    .inOrder [.wordEdge, "if", .blanks, "(", .upTo (.except ")") 200, ")", .blanks, "|", .blanks,
      .name, .blanks, "|"]⟩]

open Severity Rule in
def rules : List Rule := [
  onCondition warning (fun m => m.has "array_list" && m.lacks "deinit")
    "Consider implementing deinit for proper cleanup",
  onPresence suggestion "infinite_while"
    "Consider using labeled breaks for clearer loop control",
  onPresence suggestion "alloc_print" "Consider using formatters or bufPrint when possible",
  onPresence warning "panic" "Consider using proper error handling instead of @panic",
  onPresence strength "mem_eql_u8" "Uses std.mem.eql for byte slice comparison",
  onPresence strength "defer_deinit" "Releases resources with defer ... deinit()",
  onPresence strength "tagged_union" "Models variants with tagged unions (union(enum))",
  onPresence strength "error_switch" "Handles errors exhaustively with catch |err| switch",
  onPresence strength "optional_capture" "Unwraps optionals with payload captures"]

def classifier : Classifier where
  name := "patterns"
  title := "Design Patterns"
  allClear := "No significant pattern issues detected"
  measure := Metric.measure metrics
  rules := rules
  audit _ := []

end ZigAdvisor.Idioms
