import ZigAdvisor.Zig.OptimizeMode

/-!
# Advice on optimize modes

What each mode does and which flags go with it, and tips that hold for every mode.
-/

namespace ZigAdvisor.OptimizeMode

def advice : OptimizeMode → List String
  | debug => [
    "Runtime safety checks and full debug info enabled (-ODebug)",
    "Fastest compile times for the edit-compile-test loop",
    "Use std.heap.GeneralPurposeAllocator to catch leaks and double frees",
    "Consider --verbose-llvm-ir for LLVM optimization inspection"]
  | releaseSafe => [
    "Runtime safety checks enabled (-OReleaseSafe)",
    "LLVM -O2 optimizations enabled",
    "Use -flto for link-time optimization",
    "Enable -mcpu=native for target-specific optimizations"]
  | releaseFast => [
    "Runtime safety checks disabled (-OReleaseFast)",
    "Maximum LLVM -O3 optimizations",
    "Use -fstrip for smaller binaries",
    "Enable -mcpu=native for maximum target optimization",
    "Use -fno-stack-check for maximum performance",
    "Benchmark against ReleaseSafe: undefined behavior is no longer caught"]
  | releaseSmall => [
    "Size optimizations enabled (-OReleaseSmall)",
    "LLVM -Os optimization for size",
    "Use -fstrip to remove debug symbols",
    "Enable -flto for dead code elimination",
    "Consider -ffunction-sections -fdata-sections for better linking",
    "Use @setRuntimeSafety(false) in hot paths"]

def buildTips (mode : OptimizeMode) : List Text := [
  .concat [
    "Use 'zig build-exe -O", mode.name, "' or 'zig build -Doptimize=", mode.name,
    "' for optimized builds"],
  "Set target with '-target x86_64-linux-gnu' for cross-compilation",
  "Add '-mcpu=native' for CPU-specific optimizations",
  "Use '-flto' for link-time optimization (longer compile time, better performance)",
  "Enable '-fstrip' to reduce binary size in release builds"]

end ZigAdvisor.OptimizeMode
