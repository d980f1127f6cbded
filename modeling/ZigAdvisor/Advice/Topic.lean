import ZigAdvisor.Text.Case

/-!
# Advice by topic

A prompt is searched for the keywords of each topic, in any case. The advice on the topics it
mentions is given in the order of the topics.
-/

namespace ZigAdvisor

structure Topic where
  keywords : List String
  advice : List String

namespace Topic

def performance : Topic where
  keywords := ["performance"]
  advice := [
    "Use comptime when possible for compile-time evaluation",
    "Consider using packed structs for memory optimization",
    "Implement custom allocators for specific use cases",
    "Use inline fn for small hot functions",
    "Consider using @Vector for SIMD operations",
    "Use @prefetch() to hint cache warming for pointer access",
    "Use @setRuntimeSafety(false) only in measured performance-critical paths",
    "Consider ArrayListUnmanaged for reduced indirection overhead",
    "Use MultiArrayList for better cache locality (Structure of Arrays)",
    "Leverage @reduce() for efficient vector reductions",
    "Use builtin functions (@sqrt, @sin, @cos) instead of std.math",
    "Consider @embedFile() for compile-time resource inclusion",
    "Use @bitCast() instead of @ptrCast() when possible for better optimization",
    "Leverage @splat() for vector initialization"]

def building : Topic where
  keywords := ["build", "optimization"]
  advice := [
    "Use -OReleaseFast for maximum runtime performance",
    "Enable -mcpu=native for target-specific CPU optimizations",
    "Use -flto for link-time optimization and dead code elimination",
    "Use -fstrip to reduce binary size in production builds",
    "Use -fomit-frame-pointer for additional register availability",
    "Use --verbose-llvm-ir to inspect LLVM optimization passes",
    "Enable -ffunction-sections -fdata-sections for better dead code elimination",
    "Consider cross-compilation with -target for specific architectures",
    "Use zig build-exe -OReleaseSmall for size-optimized builds",
    "Leverage -femit-llvm-ir to analyze generated LLVM code"]

def memory : Topic where
  keywords := ["memory"]
  advice := [
    "Use ArenaAllocator for batch allocations with single cleanup",
    "Consider FixedBufferAllocator for stack-based allocation",
    "Use std.heap.page_allocator for large, long-lived allocations",
    "Implement GeneralPurposeAllocator for debugging memory issues",
    "Use BoundedArray for stack-allocated dynamic arrays",
    "Consider @alignOf() and @sizeOf() for memory layout optimization",
    "Use @memcpy() and @memset() builtins for optimized memory operations",
    "Leverage packed structs for memory-constrained environments",
    "Use std.mem.Allocator.alignedAlloc() for SIMD-aligned allocations"]

def vectors : Topic where
  keywords := ["simd", "vector"]
  advice := [
    "Use @Vector(len, T) for explicit SIMD programming",
    "Leverage @splat() to broadcast scalars to vectors",
    "Use @reduce() for vector reductions (sum, min, max, etc.)",
    "Consider @shuffle() for vector lane rearrangement",
    "Use @select() for conditional vector operations",
    "Ensure data alignment with @alignOf() for optimal SIMD performance",
    "Use vector length that matches target CPU SIMD width",
    "Consider loop unrolling for better vectorization opportunities"]

def safety : Topic where
  keywords := ["safety"]
  advice := [
    "Add bounds checking for array access",
    "Use explicit error handling with try/catch",
    "Implement proper resource cleanup with defer",
    "Use const where possible to prevent mutations",
    "Avoid undefined behavior with proper initialization",
    "Keep runtime safety on (Debug/ReleaseSafe) while testing",
    "Leverage optional types (?T) instead of null pointers",
    "Use tagged unions for type-safe variant types"]

def maintainability : Topic where
  keywords := ["maintainability"]
  advice := [
    "Add comprehensive documentation",
    "Break down complex functions",
    "Use meaningful variable names",
    "Organize code into modules and namespaces",
    "Write unit tests for public functions",
    "Use comptime for compile-time validation",
    "Leverage Zig's type system for self-documenting code"]

def all : List Topic := [performance, building, memory, vectors, safety, maintainability]

def noTopic : String := "No topic-specific advice for this prompt; see the sections above"

def isIn (topic : Topic) (text : Text) : Bool := topic.keywords.any fun k => text.contains k

def mentioned (prompt : Text) : List Topic :=
  let text := Text.lower prompt
  all.filter (·.isIn text)

def recommendations (prompt : Text) : List Text :=
  match (mentioned prompt).flatMap Topic.advice with
  | [] => [noTopic]
  | advice => advice.map .ofString

end Topic

end ZigAdvisor
