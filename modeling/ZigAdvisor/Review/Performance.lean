import ZigAdvisor.Flow.Complexity
import ZigAdvisor.Review.Optimization

/-!
# Performance

Allocation, layout, vectorization and the use of built-in functions, with an estimate of the time
complexity.
-/

namespace ZigAdvisor.Performance

def metrics : List Metric := [
  ⟨"array_list", .inOrder ["std.ArrayList", .wordEdge]⟩,
  ⟨"init_capacity", "initCapacity"⟩,
  ⟨"array_list_unmanaged", "ArrayListUnmanaged"⟩,
  ⟨"constant_arith", .inOrder ["+", .blanks, .number, .blanks, "+"]⟩,
  ⟨"crypto", "std.crypto"⟩,
  ⟨"mul_div_mod", .inOrder [.wordEdge, .anyOf ["mul", "div", "mod"], .wordEdge]⟩,
  ⟨"numeric_slices", .inOrder ["[]", .anyOf ["f32", "f64", "i32"], .wordEdge]⟩,
  ⟨"arith_loop", Optimization.arithmeticLoop⟩,
  ⟨"struct_decl", Optimization.structDeclaration⟩,
  ⟨"nested_slices", "[][]"⟩,
  ⟨"small_fn", Optimization.smallFunction 100⟩,
  ⟨"call_builtin", .call "@call"⟩,
  ⟨"math_sqrt", "std.math.sqrt"⟩,
  ⟨"math_trig", .inOrder ["std.math.", .anyOf ["sin", "cos"], .wordEdge]⟩,
  ⟨"mem_copy_set", .inOrder ["std.mem.", .anyOf ["copy", "set"], .wordEdge]⟩,
  ⟨"hash_map", "std.HashMap"⟩,
  ⟨"array_hash_map", "ArrayHashMap"⟩,
  ⟨"bounded_array", "std.BoundedArray"⟩,
  ⟨"hash_constant",
    .inOrder ["const", .gap, .name, .blanks, "=", .upTo .inLine 200, "std.",
      .anyOf ["hash", "crypto"]]⟩,
  ⟨"switch_expr", .inOrder [.wordEdge, .call "switch"]⟩,
  ⟨"threads", .anyOf ["std.Thread", "std.atomic"]⟩]

open Severity Rule in
def rules : List Rule := [
  onCondition suggestion (fun m => m.has "array_list" && m.lacks "init_capacity")
    "Consider pre-allocating ArrayList capacity with initCapacity()",
  onCondition suggestion (fun m => m.has "array_list" && m.lacks "array_list_unmanaged")
    "Consider ArrayListUnmanaged for reduced pointer indirection",
  onPresence suggestion "constant_arith" "Use comptime for constant expressions",
  onPresence suggestion "crypto" "Consider using batch processing for crypto operations",
  onPresence suggestion "mul_div_mod"
    "Consider using bit operations for power-of-2 operations",
  onPresence suggestion "numeric_slices"
    "Consider @Vector for SIMD operations on numeric arrays",
  onPresence suggestion "numeric_slices" "Use @reduce() for vector reduction operations",
  onPresence suggestion "arith_loop"
    "Loop with arithmetic operations can benefit from vectorization",
  onPresence suggestion "struct_decl"
    "Order struct fields by alignment (largest first) for optimal packing",
  onPresence suggestion "struct_decl"
    "Consider packed struct for memory-constrained scenarios",
  onPresence suggestion "nested_slices"
    "Consider MultiArrayList for better cache locality (AoS → SoA)",
  onPresence suggestion "small_fn"
    "Consider inline fn for small, frequently-called functions",
  onPresence suggestion "call_builtin"
    "Use @call(.always_inline, ...) for guaranteed inlining",
  onPresence suggestion "math_sqrt"
    "Use @sqrt() builtin instead of std.math.sqrt for better performance",
  onPresence suggestion "math_trig" "Use @sin()/@cos() builtins for better performance",
  onPresence suggestion "mem_copy_set"
    "Use @memcpy()/@memset() builtins for optimized memory operations",
  onCondition suggestion (fun m => m.has "hash_map" && m.lacks "array_hash_map")
    "Consider ArrayHashMap for better cache locality with small datasets",
  onPresence strength "bounded_array"
    "BoundedArray provides stack allocation with dynamic sizing",
  onPresence suggestion "hash_constant" "Move hash/crypto constants to comptime evaluation",
  onPresence suggestion "switch_expr" "Ensure switch cases are comptime-known when possible",
  onPresence suggestion "threads"
    "Consider target CPU cache line size for atomic operations",
  onPresence suggestion "threads"
    "Use std.builtin.AtomicOrder for fine-grained memory ordering control",
  onPresence warning "nested_for" "Review nested loops for optimization opportunities",
  ⟨info, fun _ => true, fun m =>
    .concat ["Estimated time complexity: ", (Complexity.estimate m).label,
      " (heuristic estimate)"]⟩]

def measure (code : Text) : Metrics :=
  Metric.measure metrics code ++ Complexity.measure code ++
    [("nested_for", nestedLoops .forLoop code)]

def classifier : Classifier where
  name := "performance"
  title := "Performance Insights"
  allClear := "No immediate performance concerns detected"
  measure := measure
  rules := rules
  audit _ := []

end ZigAdvisor.Performance
