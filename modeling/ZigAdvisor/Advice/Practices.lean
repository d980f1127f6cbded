import ZigAdvisor.Text.Basic

/-!
# Guide to build scripts

The guide that is served on the structure of projects, build scripts and packages.
-/

namespace ZigAdvisor.Guide.Practices

def title : List String := [
  "# Zig Build System Best Practices",
  ""]

def projectStructure : List String := [
  "## Project Structure",
  "```",
  "my-project/",
  "├── build.zig          # Main build script",
  "├── build.zig.zon      # Dependency management (Zig 0.11+)",
  "├── src/",
  "│   ├── main.zig       # Application entry point",
  "│   ├── root.zig       # Library root (if applicable)",
  "│   └── ...            # Other source files",
  "├── test/              # Integration tests",
  "└── examples/          # Example code",
  "```",
  ""]

def buildInterface : List String := [
  "## Modern Build API",
  ""]

def buildFunction : List String := [
  "### 1. Build function signature",
  "```zig",
  "// Old pattern (Zig 0.10 and earlier)",
  "pub fn build(b: *std.build.Builder) void \x7b",
  "    const target = b.standardTargetOptions(.\x7b\x7d);",
  "    const mode = b.standardReleaseOptions();",
  "    const exe = b.addExecutable(\"my-app\", \"src/main.zig\");",
  "    exe.setTarget(target);",
  "    exe.setBuildMode(mode);",
  "    exe.install();",
  "\x7d",
  "",
  "// New pattern (Zig 0.11+)",
  "pub fn build(b: *std.Build) void \x7b",
  "    const target = b.standardTargetOptions(.\x7b\x7d);",
  "    const optimize = b.standardOptimizeOption(.\x7b\x7d);",
  "    const exe = b.addExecutable(.\x7b",
  "        .name = \"my-app\",",
  "        .root_source_file = b.path(\"src/main.zig\"),",
  "        .target = target,",
  "        .optimize = optimize,",
  "    \x7d);",
  "    b.installArtifact(exe);",
  "\x7d",
  "```",
  ""]

def packages : List String := [
  "### 2. Dependency management with build.zig.zon",
  "```zig",
  "const dep = b.dependency(\"my_dep\", .\x7b",
  "    .target = target,",
  "    .optimize = optimize,",
  "\x7d);",
  "exe.root_module.addImport(\"my_dep\", dep.module(\"my_dep\"));",
  "```",
  "",
  "Add entries with `zig fetch --save <url>`; it writes the correct hash.",
  ""]

def buildOptions : List String := [
  "### 3. Build options",
  "```zig",
  "const options = b.addOptions();",
  "options.addOption(bool, \"enable_logging\", true);",
  "exe.root_module.addOptions(\"config\", options);",
  "```",
  ""]

def systemLibraries : List String := [
  "### 4. System library linking",
  "```zig",
  "exe.linkLibC();",
  "exe.linkSystemLibrary(\"pthread\");",
  "```",
  ""]

def steps : List String := [
  "## Common Build Steps",
  ""]

def testing : List String := [
  "### Testing",
  "```zig",
  "const unit_tests = b.addTest(.\x7b",
  "    .root_source_file = b.path(\"src/main.zig\"),",
  "    .target = target,",
  "    .optimize = optimize,",
  "\x7d);",
  "const test_step = b.step(\"test\", \"Run tests\");",
  "test_step.dependOn(&b.addRunArtifact(unit_tests).step);",
  "```",
  ""]

def documentation : List String := [
  "### Documentation generation",
  "```zig",
  "const docs = b.addInstallDirectory(.\x7b",
  "    .source_dir = exe.getEmittedDocs(),",
  "    .install_dir = .prefix,",
  "    .install_subdir = \"docs\",",
  "\x7d);",
  "const docs_step = b.step(\"docs\", \"Generate documentation\");",
  "docs_step.dependOn(&docs.step);",
  "```",
  ""]

def optimizeModes : List String := [
  "## Optimize Modes",
  "",
  "1. **Debug**: fastest compilation, full safety checks and debug info",
  "2. **ReleaseSafe**: optimized with runtime safety checks kept",
  "3. **ReleaseFast**: maximum runtime performance, safety checks removed",
  "4. **ReleaseSmall**: optimized for binary size",
  ""]

def crossCompilation : List String := [
  "## Cross-compilation Examples",
  "",
  "```bash",
  "# Windows from Linux/macOS",
  "zig build -Dtarget=x86_64-windows-gnu",
  "",
  "# macOS from Linux/Windows",
  "zig build -Dtarget=x86_64-macos-none",
  "",
  "# WebAssembly",
  "zig build -Dtarget=wasm32-freestanding-musl",
  "",
  "# ARM64 Linux",
  "zig build -Dtarget=aarch64-linux-gnu",
  "```",
  ""]

def gotchas : List String := [
  "## Common Gotchas",
  "",
  "1. **Always pass .target and .optimize** to addExecutable, addLibrary and addTest",
  "2. **Use b.path(\"file.zig\")** for source files inside the project",
  "3. **Declare dependencies in build.zig.zon** for Zig 0.11+",
  "4. **Use b.dependency() instead of @import()** for external packages",
  "5. **Install artifacts with b.installArtifact()** instead of manual install steps"]

def text : Text :=
  Text.ofLines (List.flatten [
    title, projectStructure, buildInterface, buildFunction, packages, buildOptions,
    systemLibraries, steps, testing, documentation, optimizeModes, crossCompilation, gotchas])

end ZigAdvisor.Guide.Practices
