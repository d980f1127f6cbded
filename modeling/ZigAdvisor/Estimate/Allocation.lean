import ZigAdvisor.Estimate.Basic

/-!
# Allocation

Allocators, compile-time evaluation and cleanup.
-/

namespace ZigAdvisor.Allocation

def metrics : List Metric := [
  ⟨"comptime", .inOrder [.wordEdge, "comptime", CharSet.blank]⟩,
  ⟨"arena", "std.heap.ArenaAllocator"⟩,
  ⟨"fixed_buffer", "std.heap.FixedBufferAllocator"⟩,
  ⟨"general_purpose", "std.heap.GeneralPurposeAllocator"⟩,
  ⟨"page", "std.heap.page_allocator"⟩,
  ⟨"stack_fallback", "std.heap.StackFallbackAllocator"⟩,
  ⟨"aligned_alloc", .anyOf ["alignedAlloc", "@alignOf"]⟩,
  ⟨"defer", .inOrder [.wordEdge, "defer", CharSet.blank]⟩,
  ⟨"errdefer", .inOrder [.wordEdge, "errdefer", CharSet.blank]⟩,
  ⟨"embed_file", .call "@embedFile"⟩,
  ⟨"comptime_block",
    .inOrder [.wordEdge, "comptime", .blanks, "\x7b", .many (.except "\x7d") 1 (some 500),
      "\x7d"]⟩]

def kinds : List (String × String) :=
  [("arena", "Arena"), ("fixed_buffer", "FixedBuffer"), ("general_purpose", "GeneralPurpose"),
    ("page", "Page")]

/-- The strategy that the kinds of allocator in use amount to. -/
def strategy (m : Metrics) : Text :=
  match kinds.filter fun kind => m.has kind.1 with
  | [] => "default allocator usage"
  | [kind] => .concat [kind.2, "-based allocation"]
  | several =>
    .concat ["Mixed allocation strategy (",
      .join ", " (several.map fun kind => .ofString kind.2), ")"]

def notes : List Note := [
  ⟨fun m => m.lacks "arena" && m.lacks "fixed_buffer" && m.lacks "general_purpose",
    "Consider using specialized allocators for better performance"⟩,
  ⟨(·.has "aligned_alloc"),
    "SIMD-aligned allocations detected - good for vectorization"⟩,
  ⟨fun m => m.lacks "defer" && (m.has "arena" || m.has "fixed_buffer"),
    "Add defer statements for proper cleanup"⟩,
  ⟨(·.has "embed_file"), "Compile-time file embedding reduces runtime I/O"⟩]

def lines (m : Metrics) : List Text := [
  m.line "Comptime Evaluations" "comptime" " (compile-time optimization)",
  m.line "Comptime Blocks" "comptime_block" " (complex compile-time evaluation)",
  m.line "Arena Allocators" "arena" " (batch allocation/cleanup)",
  m.line "Fixed Buffer Allocators" "fixed_buffer" " (stack-based allocation)",
  m.line "General Purpose Allocators" "general_purpose" " (debugging/development)",
  m.line "Page Allocators" "page" " (large allocations)",
  m.line "Stack Fallback Allocators" "stack_fallback" " (hybrid stack/heap)",
  m.line "Aligned Allocations" "aligned_alloc" " (SIMD optimization)",
  m.line "Defer Statements" "defer" " (cleanup automation)",
  m.line "Errdefer Statements" "errdefer" " (error cleanup)",
  m.line "Embedded Files" "embed_file" " (compile-time resources)",
  .concat ["Allocation Strategy: ", strategy m]]

def estimate (code : Text) : Text :=
  let m := Metric.measure metrics code
  Text.withNotes (lines m) "Allocator Recommendations" (Note.select notes m)

end ZigAdvisor.Allocation
