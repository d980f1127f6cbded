import ZigAdvisor.Review.Rule

/-!
# Testing

Coverage by test blocks and use of the testing library.
-/

namespace ZigAdvisor.Testing

def namedTest : Pattern :=
  .inOrder [.wordEdge, "test", .gap, "\"", .upTo (.except "\"\n") 200, "\""]

def unnamedTest : Pattern := .inOrder [.wordEdge, "test", .blanks, "\x7b"]

def metrics : List Metric := [
  ⟨"test_blocks", .anyOf [.inOrder [namedTest, .blanks, "\x7b"], unnamedTest]⟩,
  ⟨"testing_allocator", "testing.allocator"⟩,
  ⟨"allocations",
    .anyOf [.call ".alloc", .call ".create", "std.ArrayList", "allocPrint"]⟩,
  ⟨"placeholder_expect", .inOrder [.call "expect", .blanks, "true", .blanks, ")"]⟩,
  ⟨"expect_error", .call "expectError"⟩,
  ⟨"error_union",
    .anyOf [
      .inOrder [CharSet.word, "!", CharSet.word],
      .inOrder [CharSet.blank, "!", CharSet.mk false [.range 'a' 'z', .range 'A' 'Z', .point '_'],
        .many .word 0 none, .blanks, "\x7b"],
      .inOrder [.wordEdge, "error", .blanks, "\x7b"]]⟩,
  ⟨"ref_all_decls", "refAllDecls"⟩,
  ⟨"pub_decls", .inOrder [.wordEdge, "pub", .gap, .anyOf ["fn", "const"], .wordEdge]⟩,
  ⟨"skip_test", "error.SkipZigTest"⟩,
  ⟨"expect_equal",
    .inOrder ["expectEqual", .optional (.anyOf ["Slices", "Strings"]), .blanks, "("]⟩]

open Severity Rule in
def rules : List Rule := [
  onAbsence warning "test_blocks"
    "Add test blocks (test \"name\" \x7b ... \x7d) to cover public behavior",
  ⟨info, (·.has "test_blocks"), fun m =>
    .concat [.ofNat (m.get "test_blocks"), " test block(s) found"]⟩,
  onCondition suggestion
    (fun m => m.has "test_blocks" && m.has "allocations" && m.lacks "testing_allocator")
    "Use std.testing.allocator in tests to catch leaks",
  onPresence warning "placeholder_expect"
    "Replace placeholder expect(true) assertions with real checks",
  onCondition suggestion (fun m => m.has "error_union" && m.lacks "expect_error")
    "Cover error paths with std.testing.expectError",
  onCondition suggestion (fun m => m.has "pub_decls" && m.lacks "ref_all_decls")
    "Add std.testing.refAllDecls(@This()) so every declaration is semantically checked",
  onPresence info "skip_test" "Some tests are skipped with error.SkipZigTest",
  onPresence strength "testing_allocator" "Tests use std.testing.allocator",
  onPresence strength "expect_equal" "Uses precise expectEqual* assertions"]

def classifier : Classifier where
  name := "testing"
  title := "Testing"
  allClear := "Testing practices look good"
  measure := Metric.measure metrics
  rules := rules
  audit _ := []

end ZigAdvisor.Testing
