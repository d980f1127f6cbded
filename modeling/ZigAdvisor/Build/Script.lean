import ZigAdvisor.Zig.Identifier
import ZigAdvisor.Zig.OptimizeMode

/-!
# Build scripts

A build script for an executable with a run step and a test step, with one block for each
dependency and each further step. It uses the present build interface only.
-/

namespace ZigAdvisor

structure BuildOptions where
  /-- The release that the header names. -/
  zigVersion : Text
  mode : OptimizeMode
  /-- The default target; empty for the machine that builds. -/
  target : Text
  /-- Names of packages; a name counts once. -/
  dependencies : List Text
  /-- Names of further steps. -/
  steps : List Text

namespace BuildOptions

def standardSteps : List Text := ["run", "test", "install", "uninstall"]

def packages (o : BuildOptions) : List Text := o.dependencies.eraseDups

/-- The further steps, each once, without nameless and standard ones. -/
def furtherSteps (o : BuildOptions) : List Text :=
  (o.steps.filter fun s => !s.isEmpty && !standardSteps.contains s).eraseDups

theorem mem_packages {o : BuildOptions} {name : Text} :
    name ∈ o.packages ↔ name ∈ o.dependencies := List.mem_eraseDups

theorem mem_furtherSteps {o : BuildOptions} {name : Text} :
    name ∈ o.furtherSteps ↔ name ∈ o.steps ∧ name ≠ [] ∧ name ∉ standardSteps := by
  simp [furtherSteps]

end BuildOptions

namespace BuildScript

def optimizeArgument (mode : OptimizeMode) : Text :=
  match mode with
  | .debug => ".\x7b\x7d"
  | mode => .concat [".\x7b .preferred_optimize_mode = .", mode.name, " \x7d"]

def targetArgument (target : Text) : Text :=
  if target.isEmpty then ".\x7b\x7d"
  else .concat [
    ".\x7b\n",
    "        .default_target = std.Target.Query.parse(.\x7b\n",
    "            .arch_os_abi = \"", target, "\",\n",
    "        \x7d) catch @panic(\"invalid target triple\"),\n",
    "    \x7d"]

def dependencyBlock (name : Text) : Text :=
  let ident := Zig.identifier name
  .concat [
    "    const ", ident, "_dep = b.dependency(\"", name, "\", .\x7b\n",
    "        .target = target,\n",
    "        .optimize = optimize,\n",
    "    \x7d);\n",
    "    exe.root_module.addImport(\"", name, "\", ", ident, "_dep.module(\"", name, "\"));\n"]

def stepBlock (name : Text) : Text :=
  let ident := Zig.identifier name
  .concat [
    "    const ", ident, "_step = b.step(\"", name, "\", \"Run the ", name, " step\");\n",
    "    ", ident, "_step.dependOn(b.getInstallStep());\n"]

def header (o : BuildOptions) : Text :=
  .concat [
    "//! Build script for Zig project\n",
    "//! Zig version: ", o.zigVersion, "\n",
    "//! Preferred optimize mode: ", o.mode.name, "\n",
    if o.target.isEmpty then [] else .concat ["//! Default target: ", o.target, "\n"],
    "\n"]

def dependencySection (o : BuildOptions) : Text :=
  match o.packages with
  | [] => "    // No external dependencies declared\n"
  | packages => packages.flatMap dependencyBlock

def stepSection (o : BuildOptions) : Text :=
  match o.furtherSteps with
  | [] => []
  | steps => .concat ["\n    // Custom steps\n", steps.flatMap stepBlock]

def opening (o : BuildOptions) : Text :=
  .concat [
    header o,
    "const std = @import(\"std\");\n",
    "\n",
    "pub fn build(b: *std.Build) void \x7b\n",
    "    // Lets the person running `zig build` choose the target; native by default.\n",
    "    const target = b.standardTargetOptions(", targetArgument o.target, ");\n",
    "\n",
    "    // Debug, ReleaseSafe, ReleaseFast or ReleaseSmall via -Doptimize.\n",
    "    const optimize = b.standardOptimizeOption(", optimizeArgument o.mode, ");\n",
    "\n"]

def executable (o : BuildOptions) : Text :=
  .concat [
    "    const exe = b.addExecutable(.\x7b\n",
    "        .name = \"main\",\n",
    "        .root_source_file = b.path(\"src/main.zig\"),\n",
    "        .target = target,\n",
    "        .optimize = optimize,\n",
    "    \x7d);\n",
    "\n",
    "    // Dependencies from build.zig.zon\n",
    dependencySection o,
    "\n",
    "    b.installArtifact(exe);\n",
    "\n"]

def runAndTest : Text :=
  .concat [
    "    const run_cmd = b.addRunArtifact(exe);\n",
    "    run_cmd.step.dependOn(b.getInstallStep());\n",
    "    if (b.args) |args| \x7b\n",
    "        run_cmd.addArgs(args);\n",
    "    \x7d\n",
    "\n",
    "    const run_step = b.step(\"run\", \"Run the application\");\n",
    "    run_step.dependOn(&run_cmd.step);\n",
    "\n",
    "    const unit_tests = b.addTest(.\x7b\n",
    "        .root_source_file = b.path(\"src/main.zig\"),\n",
    "        .target = target,\n",
    "        .optimize = optimize,\n",
    "    \x7d);\n",
    "\n",
    "    const run_unit_tests = b.addRunArtifact(unit_tests);\n",
    "    const test_step = b.step(\"test\", \"Run unit tests\");\n",
    "    test_step.dependOn(&run_unit_tests.step);\n"]

def generate (o : BuildOptions) : Text :=
  .concat [opening o, executable o, runAndTest, stepSection o, "\x7d\n"]

end BuildScript

end ZigAdvisor
