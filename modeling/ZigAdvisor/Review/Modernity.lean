import ZigAdvisor.Review.Rule

/-!
# Language version

Constructs that recent releases removed or renamed.
-/

namespace ZigAdvisor.Modernity

def twoArgument (cast : String) : Pattern :=
  .inOrder [cast, "(", .blanks, .name, .blanks, ","]

def typeChars : CharSet := ⟨false, [.word, .point '*', .point '[', .point ']']⟩

def metrics : List Metric := [
  ⟨"int_cast_two_arg", twoArgument "@intCast"⟩,
  ⟨"float_cast_two_arg", twoArgument "@floatCast"⟩,
  ⟨"ptr_cast_two_arg",
    .inOrder ["@ptrCast(", .blanks, .many typeChars 1 none, .blanks, ","]⟩,
  ⟨"truncate_two_arg", twoArgument "@truncate"⟩,
  ⟨"bit_cast_two_arg", twoArgument "@bitCast"⟩,
  ⟨"enum_to_int", .call "@enumToInt"⟩,
  ⟨"int_to_enum", .call "@intToEnum"⟩,
  ⟨"bool_to_int", .call "@boolToInt"⟩,
  ⟨"ptr_to_int", .call "@ptrToInt"⟩,
  ⟨"int_to_ptr", .call "@intToPtr"⟩,
  ⟨"float_to_int", .call "@floatToInt"⟩,
  ⟨"int_to_float", .call "@intToFloat"⟩,
  ⟨"mem_copy_set", .inOrder ["std.mem.", .anyOf ["copy", "set"], .blanks, "("]⟩,
  ⟨"async_await",
    .inOrder [.wordEdge, .anyOf ["async", "await", "suspend", "nosuspend"], .wordEdge]⟩,
  ⟨"usingnamespace", .word "usingnamespace"⟩,
  ⟨"old_builder", .anyOf ["std.build.Builder", .word "Builder"]⟩,
  ⟨"path_struct", .inOrder [".\x7b", .blanks, ".path", .blanks, "="]⟩,
  ⟨"old_for_index",
    .inOrder [.wordEdge, "for", .blanks, "(", .many (.except ",)") 1 (some 200), ")", .blanks,
      "|", .blanks, .optional "*", .name, .blanks, ",", .blanks, .name, .blanks, "|"]⟩,
  ⟨"multi_object_for",
    .inOrder [.wordEdge, "for", .blanks, "(", .upTo (.except ")") 200, ",", .blanks, "0..",
      .blanks, ")"]⟩,
  ⟨"as_cast",
    .inOrder ["@as(", .blanks, .many typeChars 1 none, .blanks, ",", .blanks, "@",
      .anyOf ["intCast", "floatCast", "truncate", "bitCast"], "("]⟩]

def removedCasts : List String :=
  ["int_cast_two_arg", "float_cast_two_arg", "ptr_cast_two_arg", "truncate_two_arg",
    "bit_cast_two_arg"]

open Severity Rule in
def rules : List Rule := [
  onCondition critical (fun m => removedCasts.any m.has)
    ("Two-argument casts were removed in 0.11; write @as(T, @intCast(x)) " ++
      "or rely on the result type"),
  onPresence critical "enum_to_int" "@enumToInt was renamed to @intFromEnum",
  onPresence critical "int_to_enum" "@intToEnum was renamed to @enumFromInt",
  onPresence critical "bool_to_int" "@boolToInt was renamed to @intFromBool",
  onPresence critical "ptr_to_int" "@ptrToInt was renamed to @intFromPtr",
  onPresence critical "int_to_ptr" "@intToPtr was renamed to @ptrFromInt",
  onPresence critical "float_to_int" "@floatToInt was renamed to @intFromFloat",
  onPresence critical "int_to_float" "@intToFloat was renamed to @floatFromInt",
  onPresence warning "mem_copy_set"
    "std.mem.copy/set are deprecated; use @memcpy/@memset or std.mem.copyForwards",
  onPresence critical "async_await"
    "async/await/suspend are not supported by the self-hosted compiler",
  onPresence warning "usingnamespace"
    "usingnamespace is being removed; import declarations explicitly",
  onPresence warning "old_builder" "std.build.Builder was replaced by std.Build",
  onPresence warning "path_struct"
    "Use b.path(\"...\") instead of .\x7b .path = \"...\" \x7d",
  onPresence warning "old_for_index"
    "Use multi-object for syntax: for (items, 0..) |item, i|",
  onPresence strength "multi_object_for" "Uses multi-object for loops with index ranges",
  onPresence strength "as_cast" "Uses @as with result-type casts"]

def classifier : Classifier where
  name := "modernity"
  title := "Language Version"
  allClear := "No outdated language constructs detected"
  measure := Metric.measure metrics
  rules := rules
  audit _ := []

end ZigAdvisor.Modernity
