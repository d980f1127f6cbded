import ZigAdvisor.Review.Rule

/-!
# General optimizations

Opportunities that are worth a look whatever the optimize mode.
-/

namespace ZigAdvisor.Optimization

def operator : CharSet := .of "+-*/"

def loopOpening : Pattern :=
  .inOrder [.wordEdge, "for", .blanks, "(", .upTo (.except ")") 200, ")", .blanks, "|",
    .upTo (.except "|") 100, "|", .blanks, "\x7b"]

/-- A loop whose body does arithmetic, up to the first operator. -/
def arithmeticLoop : Pattern :=
  .inOrder [loopOpening, .upTo (.except "\x7d+-*/") 500, operator]

/-- A function with a body of at most `most` code points without a nested block. -/
def smallFunction (most : Nat) : Pattern :=
  .inOrder [.wordEdge, "fn", .gap, .name, .upTo (.except "\x7b") 200, "\x7b",
    .many (.except "\x7d") 1 (some most), "\x7d"]

def structDeclaration : Pattern := .inOrder [.wordEdge, "struct", .blanks, "\x7b"]

def metrics : List Metric := [
  ⟨"array_list", "std.ArrayList"⟩,
  ⟨"alloc_print", "std.fmt.allocPrint"⟩,
  ⟨"infinite_while",
    .inOrder ["while", .blanks, "(", .blanks, "true", .blanks, ")"]⟩,
  ⟨"arith_loop", .inOrder [arithmeticLoop, .upTo (.except "\x7d") 500, "\x7d"]⟩,
  ⟨"float_slices", .inOrder ["[]f", .anyOf ["32", "64"], .wordEdge]⟩,
  ⟨"integer_constant",
    .inOrder [.wordEdge, "const", .gap, .name, .blanks, "=", .blanks, .number]⟩,
  ⟨"hash_or_crypto", .inOrder ["std.", .anyOf ["crypto", "hash"], .wordEdge]⟩,
  ⟨"struct_decl", structDeclaration⟩,
  ⟨"small_fn", smallFunction 50⟩,
  ⟨"std_math", .inOrder ["std.math", .wordEdge]⟩,
  ⟨"hash_map", "std.HashMap"⟩,
  ⟨"multi_array_list", "std.MultiArrayList"⟩]

open Severity Rule in
def rules : List Rule := [
  onPresence suggestion "array_list"
    "Consider pre-allocating ArrayList capacity if size is known",
  onPresence suggestion "array_list"
    "Use ArrayListUnmanaged for better cache locality and reduced indirection",
  onPresence suggestion "alloc_print"
    "Consider using std.fmt.bufPrint for stack allocation when possible",
  onPresence suggestion "infinite_while"
    "Consider using continue/break instead of while(true)",
  onPresence suggestion "arith_loop"
    "Consider using @Vector for SIMD operations on numeric arrays",
  onPresence suggestion "float_slices"
    "Float arrays can benefit from vectorized operations using @Vector",
  onPresence suggestion "integer_constant" "Move constant calculations to comptime blocks",
  onPresence suggestion "hash_or_crypto"
    "Consider comptime evaluation for constant hash/crypto operations",
  onPresence suggestion "struct_decl"
    "Consider using packed struct for memory efficiency if appropriate",
  onPresence suggestion "struct_decl"
    "Order struct fields by size (largest first) for optimal packing",
  onPresence suggestion "small_fn" "Consider inline fn for small hot functions",
  onPresence suggestion "std_math"
    "Use builtin math functions like @sqrt, @sin, @cos for better performance",
  onPresence suggestion "hash_map"
    "Consider ArrayHashMap for better cache locality with small datasets",
  onPresence suggestion "hash_map"
    "Use HashMap with a custom context for custom hash/equality functions",
  onPresence strength "multi_array_list"
    "MultiArrayList provides better cache efficiency for struct-of-arrays pattern"]

def classifier : Classifier where
  name := "optimization"
  title := "General Code Optimizations"
  allClear := "No general optimizations suggested for this code"
  measure := Metric.measure metrics
  rules := rules
  audit _ := []

end ZigAdvisor.Optimization
