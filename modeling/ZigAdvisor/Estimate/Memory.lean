import ZigAdvisor.Estimate.Basic

/-!
# Memory usage

Containers, slices, vectors and layouts.
-/

namespace ZigAdvisor.MemoryUsage

def metrics : List Metric := [
  ⟨"heap_alloc",
    .inOrder ["std.", .anyOf ["ArrayList", "StringHashMap", "AutoHashMap", "HashMap"]]⟩,
  ⟨"stack_alloc",
    .inOrder ["var", .gap, .name, .blanks, ":", .blanks, "[", .number, "]"]⟩,
  ⟨"slices",
    .inOrder ["[]",
      .anyOf ["u8", "i32", "f64", "usize", "isize", "f32", "i64", "u32", "u64", "i16", "u16"],
      .wordEdge]⟩,
  ⟨"multi_array_list", "std.MultiArrayList"⟩,
  ⟨"bounded_array", "std.BoundedArray"⟩,
  ⟨"vector_types", .inOrder ["@Vector(", .blanks, .number, .blanks, ","]⟩,
  ⟨"packed_struct", .inOrder [.wordEdge, "packed", .gap, "struct"]⟩,
  ⟨"aligned_types", .anyOf ["@alignOf", .inOrder ["align(", .number, ")"]]⟩,
  ⟨"allocators",
    .inOrder ["std.heap.",
      .anyOf ["ArenaAllocator", "FixedBufferAllocator", "GeneralPurposeAllocator",
        "page_allocator"]]⟩,
  ⟨"array_list_unmanaged", "ArrayListUnmanaged"⟩,
  ⟨"simd_alignment", .inOrder ["@alignOf(", .upTo .inLine 200, "@Vector"]⟩]

def notes : List Note := [
  ⟨fun m => m.get "array_list_unmanaged" < m.get "heap_alloc" && m.has "heap_alloc",
    "Consider ArrayListUnmanaged for reduced pointer indirection"⟩,
  ⟨fun m => m.has "vector_types" && m.lacks "simd_alignment",
    "Ensure SIMD vectors are properly aligned for optimal performance"⟩,
  ⟨fun m => m.has "slices" && m.lacks "multi_array_list" && 2 < m.get "heap_alloc",
    "Consider MultiArrayList for better cache locality with multiple arrays"⟩,
  ⟨fun m => m.lacks "stack_alloc" && m.lacks "bounded_array" && m.has "heap_alloc",
    "Consider BoundedArray for small, stack-allocated dynamic arrays"⟩]

/-- Whether containers on the heap outnumber arrays on the stack. -/
def profile (m : Metrics) : String :=
  if m.get "stack_alloc" < m.get "heap_alloc" then "Heap-heavy" else "Stack-optimized"

def lines (m : Metrics) : List Text := [
  m.line "Heap Allocations" "heap_alloc" " detected",
  m.line "Stack Allocations" "stack_alloc" " detected",
  m.line "Slice Usage" "slices" " instances",
  m.line "MultiArrayList" "multi_array_list" " instances (SoA pattern for cache efficiency)",
  m.line "BoundedArray" "bounded_array" " instances (stack-allocated dynamic arrays)",
  m.line "Vector Types" "vector_types" " instances (SIMD support)",
  m.line "Packed Structs" "packed_struct" " instances (memory optimization)",
  m.line "Aligned Types" "aligned_types" " instances (alignment optimization)",
  m.line "Custom Allocators" "allocators" " instances",
  m.line "ArrayListUnmanaged" "array_list_unmanaged" " instances (reduced overhead)",
  .concat ["Memory Profile: ", profile m]]

def estimate (code : Text) : Text :=
  let m := Metric.measure metrics code
  Text.withNotes (lines m) "Recommendations" (Note.select notes m)

end ZigAdvisor.MemoryUsage
