import ZigAdvisor.Json.Basic
import ZigAdvisor.Zig.OptimizeMode

/-!
# Tools

The tools that the server offers, with what is advertised of them: a description and a schema of
their arguments.
-/

namespace ZigAdvisor

inductive Tool
  | optimizeCode
  | estimateComputeUnits
  | generateCode
  | getRecommendations
  | generateBuildZig
  | analyzeBuildZig
  | generateBuildZon
deriving DecidableEq

namespace Tool

def all : List Tool := [optimizeCode, estimateComputeUnits, generateCode, getRecommendations,
  generateBuildZig, analyzeBuildZig, generateBuildZon]

def name : Tool → String
  | optimizeCode => "optimize_code"
  | estimateComputeUnits => "estimate_compute_units"
  | generateCode => "generate_code"
  | getRecommendations => "get_recommendations"
  | generateBuildZig => "generate_build_zig"
  | analyzeBuildZig => "analyze_build_zig"
  | generateBuildZon => "generate_build_zon"

def description : Tool → String
  | optimizeCode =>
    "Suggest optimizations for Zig code and list build advice for the chosen optimization level"
  | estimateComputeUnits =>
    "Estimate memory usage, time complexity and allocation strategy of Zig code (heuristic)"
  | generateCode => "Generate Zig code from a natural language description"
  | getRecommendations =>
    "Review Zig code for style, idioms, safety, performance, concurrency, metaprogramming, " ++
      "testing, build, interop, metrics and language version issues"
  | generateBuildZig => "Generate a build.zig file using the current build API"
  | analyzeBuildZig => "Analyze a build.zig file and recommend modernizations"
  | generateBuildZon => "Generate a build.zig.zon dependency manifest"

inductive ArgumentType
  | text (default : Option String)
  /-- The name of an optimize mode. -/
  | mode
  | textList
  /-- A list of packages with a name and optionally an address. -/
  | dependencyList

structure Parameter where
  name : String
  type : ArgumentType
  description : String

def parameters : Tool → List Parameter
  | optimizeCode => [
    ⟨"code", .text none, "Zig source code to optimize"⟩,
    ⟨"optimizationLevel", .mode, "Optimization level to target"⟩]
  | estimateComputeUnits => [⟨"code", .text none, "Zig source code to analyze"⟩]
  | generateCode => [
    ⟨"prompt", .text none, "Natural language description of the desired code"⟩,
    ⟨"context", .text none, "Additional context or requirements"⟩]
  | getRecommendations => [
    ⟨"code", .text none, "Zig source code to review"⟩,
    ⟨"prompt", .text none, "Focus area, e.g. performance, memory, safety"⟩]
  | generateBuildZig => [
    ⟨"zigVersion", .text (some "0.12.0"), "Target Zig version"⟩,
    ⟨"optimizationLevel", .mode, "Preferred optimization level"⟩,
    ⟨"targetTriple", .text none, "Default target triple, e.g. x86_64-linux-gnu"⟩,
    ⟨"dependencies", .textList, "Dependency names to wire into the build"⟩,
    ⟨"buildSteps", .textList, "Additional named build steps"⟩]
  | analyzeBuildZig => [⟨"buildFileContent", .text none, "Content of the build.zig file"⟩]
  | generateBuildZon => [
    ⟨"dependencies", .dependencyList, "Dependencies to declare"⟩,
    ⟨"projectName", .text (some "my-project"), "Package name"⟩,
    ⟨"version", .text (some "0.1.0"), "Package version"⟩]

def required? : Tool → Option String
  | optimizeCode | estimateComputeUnits | getRecommendations => some "code"
  | generateCode => some "prompt"
  | analyzeBuildZig => some "buildFileContent"
  | generateBuildZig | generateBuildZon => none

/-! ## Schemas -/

/-- The schema of an argument type around the description of the argument. A default stands behind
the description of a text, and before that of a mode. -/
def ArgumentType.schema (description : Json) : ArgumentType → List (String × Json)
  | text default =>
    [("type", .constant "string"), ("description", description)] ++
      default.toList.map fun d => ("default", .constant d)
  | mode => [
    ("type", .constant "string"),
    ("enum", .arr (OptimizeMode.all.map fun m => .constant m.name)),
    ("default", .constant OptimizeMode.releaseSafe.name),
    ("description", description)]
  | textList => [
    ("type", .constant "array"),
    ("items", .object [("type", .constant "string")]),
    ("description", description)]
  | dependencyList => [
    ("type", .constant "array"),
    ("items", .object [
      ("type", .constant "object"),
      ("properties", .object [
        ("name", .object [("type", .constant "string")]),
        ("url", .object [("type", .constant "string")])]),
      ("required", .arr [.constant "name"])]),
    ("description", description)]

def Parameter.schema (p : Parameter) : Json :=
  .object (p.type.schema (.constant p.description))

def inputSchema (t : Tool) : Json :=
  let properties := t.parameters.map fun p => (p.name, p.schema)
  let required := t.required?.toList.map fun key => ("required", Json.arr [.constant key])
  .object ([("type", .constant "object"), ("properties", .object properties)] ++ required)

def advertisement (t : Tool) : Json :=
  .object [
    ("name", .constant t.name), ("description", .constant t.description),
    ("inputSchema", t.inputSchema)]

end Tool

end ZigAdvisor
