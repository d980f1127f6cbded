import ZigAdvisor.Pattern.Search

/-!
# Review of build scripts

What is out of date or missing in a build script, judged against the present build interface. The
issues are looked for in a fixed order.
-/

namespace ZigAdvisor

namespace Pattern

/-- An import of a source file, other than of the packages every script may import. -/
def fileImport : Pattern :=
  .inOrder ["@import(", .blanks, "\"", .notAhead (.anyOf ["std\"", "builtin\"", "root\""]),
    .many (.except "\"") 1 none, ".zig\"", .blanks, ")"]

def pathLiteral : Pattern := .inOrder [".\x7b", .blanks, ".path", .blanks, "="]

def stepModule : Pattern :=
  .inOrder [.wordEdge, .anyOf ["exe", "lib", .inOrder ["test", .optional "s"], "unit_tests"],
    ".addModule", .blanks, "("]

end Pattern

inductive BuildIssue
  | oldBuilder
  | setTarget
  | setBuildMode
  | fileImport
  | pathLiteral
  | stepModule
  | noTargetOptions
  | noOptimizeOption
  | noTest
  | noInstall
deriving DecidableEq

namespace BuildIssue

def all : List BuildIssue :=
  [oldBuilder, setTarget, setBuildMode, fileImport, pathLiteral, stepModule, noTargetOptions,
    noOptimizeOption, noTest, noInstall]

def isIn : BuildIssue → Text → Bool
  | oldBuilder, script => script.contains "Builder"
  | setTarget, script => script.contains "setTarget"
  | setBuildMode, script => script.contains "setBuildMode"
  | fileImport, script => Pattern.fileImport.occursIn script
  | pathLiteral, script => Pattern.pathLiteral.occursIn script
  | stepModule, script => Pattern.stepModule.occursIn script
  | noTargetOptions, script => !script.contains "standardTargetOptions"
  | noOptimizeOption, script => !script.contains "standardOptimizeOption"
  | noTest, script => !script.contains "addTest"
  | noInstall, script => !script.contains "installArtifact"

def advice : BuildIssue → String
  | oldBuilder => "Update to new Build API: replace Builder with std.Build"
  | setTarget => "Use standardTargetOptions() instead of setTarget()"
  | setBuildMode => "Use standardOptimizeOption() instead of setBuildMode()"
  | fileImport =>
    "Consider using b.dependency() for external dependencies instead of @import()"
  | pathLiteral =>
    "Use b.path(\"src/main.zig\") instead of .\x7b .path = \"src/main.zig\" \x7d for source paths"
  | stepModule =>
    "Use root_module.addImport(\"name\", module) instead of addModule() on compile steps"
  | noTargetOptions => "Add standardTargetOptions() for cross-compilation support"
  | noOptimizeOption => "Add standardOptimizeOption() for build mode selection"
  | noTest => "Consider adding test step with addTest()"
  | noInstall => "Use installArtifact() to install built executables/libraries"

end BuildIssue

namespace BuildScript

def upToDate : String := "Build file follows modern Zig patterns"

def issues (script : Text) : List BuildIssue := BuildIssue.all.filter (·.isIn script)

def recommendations (script : Text) : List Text :=
  match issues script with
  | [] => [upToDate]
  | found => found.map fun i => .ofString i.advice

end BuildScript

end ZigAdvisor
