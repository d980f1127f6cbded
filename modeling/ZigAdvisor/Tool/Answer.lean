import ZigAdvisor.Advice.OptimizeMode
import ZigAdvisor.Advice.Topic
import ZigAdvisor.Build.Issue
import ZigAdvisor.Build.Script
import ZigAdvisor.Estimate.Allocation
import ZigAdvisor.Estimate.Memory
import ZigAdvisor.Estimate.Time
import ZigAdvisor.Generate.SourceFile
import ZigAdvisor.Json.Shown
import ZigAdvisor.Review.Optimization
import ZigAdvisor.Review.Registry
import ZigAdvisor.Service.Trace
import ZigAdvisor.Tool.Arguments

/-!
# Answers of tools

Each tool answers with one text. Arguments have been checked before; no source text is refused
here.
-/

namespace ZigAdvisor

/-- The report of a classifier on a source text, with a record of how many rules applied. -/
def Classifier.reviewTraced (c : Classifier) (code : Text) : Traced Text := do
  .log .debug (.concat [c.name, ": ", .ofNat (c.ruleFindings code).length, " findings"])
  return c.review code

namespace Tool

def withNotes (heading document : Text) (notes : List Text) : Text :=
  .concat [heading, ":\n\n", document, "\nNotes:\n", .bulletList notes]

/-- The mode that was asked for, with a warning if what was asked for is none. -/
def chosenMode (requested : Option Json) : Traced OptimizeMode :=
  match requested with
  | none => pure .usual
  | some .null => pure .usual
  | some j =>
    match OptimizeMode.ofJson? j with
    | some mode => pure mode
    | none => do
      .log .warning (.concat [
        "Unknown optimization level ", j.quoted, ", using ", OptimizeMode.usual.name])
      return .usual

def optimize (code : Text) (requested : Option Json) : Traced Text := do
  let mode ← chosenMode requested
  let findings ← Optimization.classifier.reviewTraced code
  return .concat ["Optimization Analysis for ", mode.name, ":\n\n", .sections [
    ("General Code Optimizations", findings),
    (.concat ["Build Configuration for ", mode.name],
      .bulletList (mode.advice.map .ofString)),
    ("Advanced Build Tips", .bulletList mode.buildTips)]]

def estimate (code : Text) : Text :=
  .concat ["Compute Units Estimation:\n\n", .sections [
    ("Memory Usage", MemoryUsage.estimate code),
    ("Time Complexity", RunningTime.estimate code),
    ("Allocation Analysis", Allocation.estimate code)]]

def generationNotes (r : CodeRequest) : List Text :=
  List.flatten [
    [.concat ["Template: ", r.template.name], "Code follows the Zig style guide (zig fmt layout)"],
    Text.provided r.errorHandling "Functions that can fail return an error union over Error",
    Text.provided r.testing "Includes \"basic functionality\" and \"edge cases\" tests",
    Text.provided r.performance "Performance notes included as comments"]

def generate (prompt context : Text) : Text :=
  let request := CodeRequest.read prompt context
  withNotes "Generated Zig Code" (SourceFile.generate request) (generationNotes request)

def promptSection (prompt : Text) : List (Text × Text) :=
  if prompt.isEmpty then []
  else [(.concat ["Specific Recommendations for \"", prompt, "\""],
    .bulletList (Topic.recommendations prompt))]

def recommend (classifiers : List Classifier) (code prompt : Text) : Traced Text := do
  let reviews ← classifiers.mapM fun c => do
    return (Text.ofString c.title, ← c.reviewTraced code)
  return .concat ["Code Analysis and Recommendations:\n\n",
    .sections (reviews ++ promptSection prompt)]

def scriptNotes (o : BuildOptions) : List Text :=
  List.flatten [
    ["Uses the std.Build API with b.path() source paths",
      .concat ["Preferred optimize mode: ", o.mode.name],
      "Run `zig build run` to build and run, `zig build test` for tests"],
    Text.provided (!o.target.isEmpty)
      (.concat ["Default target: ", o.target, " (override with -Dtarget)"]),
    Text.provided (!o.dependencies.isEmpty)
      "Declare every dependency in build.zig.zon (zig fetch --save <url>)"]

def buildScript (o : BuildOptions) : Text :=
  withNotes "Generated build.zig" (BuildScript.generate o) (scriptNotes o)

def analyzeScript (script : Text) : Text :=
  .concat ["Build File Analysis:\n\nRecommendations:\n",
    .bulletList (BuildScript.recommendations script)]

def manifestNotes : List Text := [
  "Hashes are placeholders; `zig fetch --save <url>` records the real ones",
  "Reference each dependency from build.zig with b.dependency(name, .\x7b\x7d)"]

def manifest (p : Project) (dependencies : List Dependency) : Text :=
  withNotes "Generated build.zig.zon" (Manifest.generate p dependencies) manifestNotes

end Tool

end ZigAdvisor
