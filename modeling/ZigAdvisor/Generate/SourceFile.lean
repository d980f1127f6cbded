import ZigAdvisor.Generate.Template

/-!
# Generated source files

A generated file has a header, its imports, an error set where errors are handled, a declaration,
remarks where speed matters, and tests where they are asked for, with blank lines between.
-/

namespace ZigAdvisor

namespace CodeRequest

def template (r : CodeRequest) : Template := .select r.features

end CodeRequest

namespace SourceFile

def header : Text := "//! Generated Zig code\n"

def imports (testing : Bool) : Text :=
  .concat [
    "const std = @import(\"std\");\n",
    if testing then "const testing = std.testing;\n" else ""]

def errorSet : Text :=
  .concat [
    "const Error = error\x7b\n",
    "    InvalidInput,\n",
    "    OutOfMemory,\n",
    "    InvalidOperation,\n",
    "\x7d;\n"]

def performanceNote : Text :=
  .concat [
    "// Optimized for performance:\n",
    "// - consider @Vector for SIMD processing of large inputs\n",
    "// - pre-size buffers with initCapacity when lengths are known\n"]

def parts (r : CodeRequest) : List Text :=
  List.flatten [
    [header, imports r.testing],
    Text.provided r.errorHandling errorSet,
    [r.template.declaration r.errorHandling],
    Text.provided r.performance performanceNote,
    Text.provided r.testing (r.template.tests r.errorHandling)]

def generate (r : CodeRequest) : Text := .join "\n" (parts r)

end SourceFile

end ZigAdvisor
