import ZigAdvisor.Review.Rule

/-!
# C interoperability

Imports from C, foreign declarations and their layouts.
-/

namespace ZigAdvisor.Interop

def metrics : List Metric := [
  ⟨"c_import", .call "@cImport"⟩,
  ⟨"extern_fn",
    .inOrder [.wordEdge, "extern", .gap, .optional (.inOrder ["\"", .name, "\"", .gap]), "fn",
      .wordEdge]⟩,
  ⟨"export_fn", .inOrder [.wordEdge, "export", .gap, "fn", .wordEdge]⟩,
  ⟨"callconv", .call "callconv"⟩,
  ⟨"c_pointer", "[*c]"⟩,
  ⟨"extern_struct", .inOrder [.wordEdge, "extern", .gap, "struct", .wordEdge]⟩,
  ⟨"mem_span", .inOrder ["std.mem.", .anyOf ["span", "sliceTo"], .blanks, "("]⟩,
  ⟨"c_malloc", .inOrder ["std.c.", .anyOf ["malloc", "free"], .blanks, "("]⟩,
  ⟨"c_allocator", .anyOf ["std.heap.c_allocator", "std.heap.raw_c_allocator"]⟩,
  ⟨"std_c", .inOrder ["std.c.", .name]⟩]

open Severity Rule in
def rules : List Rule := [
  onPresence suggestion "c_import"
    "Link the C library (linkLibC/linkSystemLibrary) in build.zig for @cImport",
  onPresence suggestion "c_import"
    "Keep @cImport in one module and re-export it to avoid duplicate C types",
  onCondition warning (fun m => m.has "export_fn" && m.lacks "callconv")
    "Declare callconv(.C) explicitly on functions exposed to C",
  onPresence suggestion "extern_fn"
    "Wrap extern functions in Zig APIs that use slices and error unions",
  onPresence warning "c_pointer"
    "Convert [*c] pointers to [*]T, *T or ?*T as soon as possible",
  onCondition suggestion (fun m => m.has "c_malloc" && m.lacks "c_allocator")
    "Use std.heap.c_allocator instead of calling std.c.malloc/free directly",
  onPresence strength "extern_struct" "Uses extern struct for C-compatible layout",
  onPresence strength "mem_span" "Converts C strings to slices with std.mem.span/sliceTo",
  ⟨info, (·.has "std_c"), fun m => .concat [.ofNat (m.get "std_c"), " std.c references"]⟩]

def classifier : Classifier where
  name := "interop"
  title := "C Interoperability"
  allClear := "No C interop detected"
  measure := Metric.measure metrics
  rules := rules
  audit _ := []

end ZigAdvisor.Interop
