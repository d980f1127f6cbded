import ZigAdvisor.Generate.Request

/-!
# Templates

A template is one declaration with two tests. Where errors are handled, the declaration refuses
bad input through an error set and the tests expect so.
-/

namespace ZigAdvisor

inductive Template
  | struct
  | enum
  | union
  | function
deriving DecidableEq

namespace Template

def all : List Template := [struct, enum, union, function]

def name : Template → String
  | struct => "struct"
  | enum => "enum"
  | union => "union"
  | function => "function"

def ifErrors (errors : Bool) (piece : Text) : Text := if errors then piece else []

def structDeclaration (errors : Bool) : Text :=
  .concat [
    "pub const MyStruct = struct \x7b\n",
    "    allocator: std.mem.Allocator,\n",
    "    processed: usize,\n",
    "\n",
    "    const Self = @This();\n",
    "\n",
    "    /// Initialize a new instance\n",
    "    pub fn init(allocator: std.mem.Allocator) Self \x7b\n",
    "        return .\x7b\n",
    "            .allocator = allocator,\n",
    "            .processed = 0,\n",
    "        \x7d;\n",
    "    \x7d\n",
    "\n",
    "    /// Release resources held by the instance\n",
    "    pub fn deinit(self: *Self) void \x7b\n",
    "        self.* = undefined;\n",
    "    \x7d\n",
    "\n",
    "    /// Process a chunk of input\n",
    "    pub fn process(self: *Self, input: []const u8) ",
    ifErrors errors "Error!", "void \x7b\n",
    ifErrors errors "        if (input.len == 0) return Error.InvalidInput;\n",
    "        self.processed += input.len;\n",
    "    \x7d\n",
    "\x7d;\n"]

def enumDeclaration (errors : Bool) : Text :=
  .concat [
    "pub const MyEnum = enum \x7b\n",
    "    variant_a,\n",
    "    variant_b,\n",
    "    variant_c,\n",
    "\n",
    "    const Self = @This();\n",
    "\n",
    "    /// Convert to string representation\n",
    "    pub fn toString(self: Self) []const u8 \x7b\n",
    "        return switch (self) \x7b\n",
    "            .variant_a => \"Variant A\",\n",
    "            .variant_b => \"Variant B\",\n",
    "            .variant_c => \"Variant C\",\n",
    "        \x7d;\n",
    "    \x7d\n",
    "\n",
    "    /// Parse from string\n",
    "    pub fn fromString(str: []const u8) ", if errors then "Error!Self" else "?Self",
    " \x7b\n",
    "        return std.meta.stringToEnum(Self, str) orelse ",
    if errors then "Error.InvalidInput" else "null", ";\n",
    "    \x7d\n",
    "\x7d;\n"]

/-- The access to the integer of a union, which fails for its other variants. -/
def asInteger : Text :=
  .concat [
    "\n",
    "    /// Integer payload, or an error for any other variant\n",
    "    pub fn asInteger(self: Self) Error!i32 \x7b\n",
    "        return switch (self) \x7b\n",
    "            .integer => |val| val,\n",
    "            else => Error.InvalidOperation,\n",
    "        \x7d;\n",
    "    \x7d\n"]

def unionDeclaration (errors : Bool) : Text :=
  .concat [
    "pub const MyUnion = union(enum) \x7b\n",
    "    integer: i32,\n",
    "    float: f64,\n",
    "    string: []const u8,\n",
    "\n",
    "    const Self = @This();\n",
    "\n",
    "    /// Get type tag as string\n",
    "    pub fn getTypeName(self: Self) []const u8 \x7b\n",
    "        return @tagName(self);\n",
    "    \x7d\n",
    ifErrors errors asInteger,
    "\n",
    "    /// Format for printing\n",
    "    pub fn format(\n",
    "        self: Self,\n",
    "        comptime fmt: []const u8,\n",
    "        options: std.fmt.FormatOptions,\n",
    "        writer: anytype,\n",
    "    ) !void \x7b\n",
    "        _ = fmt;\n",
    "        _ = options;\n",
    "\n",
    "        switch (self) \x7b\n",
    "            .integer => |val| try writer.print(\"\x7bd\x7d\", .\x7bval\x7d),\n",
    "            .float => |val| try writer.print(\"\x7bd\x7d\", .\x7bval\x7d),\n",
    "            .string => |val| try writer.print(\"\x7bs\x7d\", .\x7bval\x7d),\n",
    "        \x7d\n",
    "    \x7d\n",
    "\x7d;\n"]

def functionDeclaration (errors : Bool) : Text :=
  .concat [
    "/// Count the non-zero bytes of input\n",
    "pub fn process(input: []const u8) ", ifErrors errors "Error!", "usize \x7b\n",
    ifErrors errors "    if (input.len == 0) return Error.InvalidInput;\n\n",
    "    var count: usize = 0;\n",
    "    for (input) |byte| \x7b\n",
    "        if (byte != 0) count += 1;\n",
    "    \x7d\n",
    "    return count;\n",
    "\x7d\n"]

def declaration : Template → (errors : Bool) → Text
  | struct => structDeclaration
  | enum => enumDeclaration
  | union => unionDeclaration
  | function => functionDeclaration

def structSetup : Text :=
  .concat [
    "    var instance = MyStruct.init(testing.allocator);\n",
    "    defer instance.deinit();\n"]

def basicTest (errors : Bool) : Template → Text
  | struct =>
    .concat [
      structSetup,
      "    ", ifErrors errors "try ", "instance.process(\"test input\");\n",
      "    try testing.expectEqual(@as(usize, 10), instance.processed);\n"]
  | enum =>
    .concat [
      "    try testing.expectEqualStrings(\"Variant A\", MyEnum.variant_a.toString());\n",
      "    try testing.expectEqual(MyEnum.variant_b, ", ifErrors errors "try ",
      "MyEnum.fromString(\"variant_b\"));\n"]
  | union =>
    .concat [
      "    const value = MyUnion\x7b .integer = 42 \x7d;\n",
      "    try testing.expectEqualStrings(\"integer\", value.getTypeName());\n"]
  | function =>
    .concat [
      "    try testing.expectEqual(@as(usize, 10), ", ifErrors errors "try ",
      "process(\"test input\"));\n"]

def edgeTest (errors : Bool) : Template → Text
  | struct =>
    .concat [
      structSetup,
      if errors then
        "    try testing.expectError(Error.InvalidInput, instance.process(\"\"));\n"
      else "    instance.process(\"\");\n",
      "    try testing.expectEqual(@as(usize, 0), instance.processed);\n"]
  | enum =>
    if errors then
      "    try testing.expectError(Error.InvalidInput, MyEnum.fromString(\"\"));\n"
    else "    try testing.expect(MyEnum.fromString(\"\") == null);\n"
  | union =>
    .concat [
      "    const value = MyUnion\x7b .string = \"\" \x7d;\n",
      ifErrors errors
        "    try testing.expectError(Error.InvalidOperation, value.asInteger());\n",
      "    try testing.expectEqualStrings(\"string\", value.getTypeName());\n"]
  | function =>
    if errors then "    try testing.expectError(Error.InvalidInput, process(\"\"));\n"
    else "    try testing.expectEqual(@as(usize, 0), process(\"\"));\n"

def tests (t : Template) (errors : Bool) : Text :=
  .concat [
    "test \"basic functionality\" \x7b\n", t.basicTest errors, "\x7d\n",
    "\n",
    "test \"edge cases\" \x7b\n", t.edgeTest errors, "\x7d\n"]

/-- The template for some features: the first of struct, enum and union that is asked for, and a
function otherwise. -/
def select (features : List Feature) : Template :=
  if features.contains .struct then struct
  else if features.contains .enum then enum
  else if features.contains .union then union
  else function

end Template

end ZigAdvisor
