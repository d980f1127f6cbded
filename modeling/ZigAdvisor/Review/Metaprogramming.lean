import ZigAdvisor.Review.Rule

/-!
# Compile-time metaprogramming

Compile-time evaluation, reflection and functions that return types.
-/

namespace ZigAdvisor.Metaprogramming

def metrics : List Metric := [
  ⟨"comptime", .word "comptime"⟩,
  ⟨"type_info", .call "@typeInfo"⟩,
  ⟨"compile_error", .call "@compileError"⟩,
  ⟨"anytype", .word "anytype"⟩,
  ⟨"inline_for",
    .inOrder [.wordEdge, "inline", .gap, .anyOf ["for", "while"], .wordEdge]⟩,
  ⟨"type_construct", .call "@Type"⟩,
  ⟨"eval_quota", .call "@setEvalBranchQuota"⟩,
  ⟨"generic_fn",
    .inOrder [.wordEdge, "fn", .gap, .name, .blanks, "(",
      .ahead (.inOrder [.upTo (.except ")") 200, .word "type"]),
      .upTo (.except ")") 200, ")", .blanks, "type", .wordEdge]⟩,
  ⟨"type_name", .call "@typeName"⟩,
  ⟨"has_decl", .anyOf [.call "@hasDecl", .call "@hasField"]⟩]

open Severity Rule in
def rules : List Rule := [
  ⟨info, (·.has "comptime"), fun m =>
    .concat ["comptime used ", .ofNat (m.get "comptime"), " times"]⟩,
  onCondition suggestion (fun m => m.has "type_info" && m.lacks "compile_error")
    "Reject unsupported types from @typeInfo with @compileError",
  onPresence suggestion "anytype"
    ("Document the interface expected from anytype parameters " ++
      "or check it with @hasDecl/@hasField"),
  onPresence suggestion "inline_for"
    "inline for/while unrolls at compile time; keep it to short, comptime-known ranges",
  onPresence warning "type_construct"
    "@Type builds types from data; prefer plain declarations when the shape is fixed",
  onPresence warning "eval_quota"
    ("@setEvalBranchQuota raises compile-time limits; " ++
      "check the comptime work actually needs it"),
  onPresence strength "generic_fn" "Generic types built with fn (comptime T: type) type",
  onPresence strength "has_decl" "Checks capabilities with @hasDecl/@hasField",
  onPresence strength "compile_error" "Reports misuse at compile time with @compileError"]

def classifier : Classifier where
  name := "metaprogramming"
  title := "Compile-time Metaprogramming"
  allClear := "No compile-time metaprogramming detected"
  measure := Metric.measure metrics
  rules := rules
  audit _ := []

end ZigAdvisor.Metaprogramming
