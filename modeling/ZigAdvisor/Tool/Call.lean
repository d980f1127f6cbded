import ZigAdvisor.Service.Settings
import ZigAdvisor.Tool.Answer
import ZigAdvisor.Tool.Basic

/-!
# Calls of tools

A call checks the arguments of its tool and then answers. The first fault in the order of the
checks is the one that is told.
-/

namespace ZigAdvisor

def Arguments.requireCode (s : Settings) (args : Arguments) (key : Text) :
    Except ArgumentFault Text :=
  match args.requireText key with
  | .error fault => .error fault
  | .ok code =>
    if s.maxCodeSize < (code.length : Int) then .error (.tooLarge s.maxCodeSize) else .ok code

/-- The options of a build script. A mode that is named has to be known; anything but a text is
as good as none. -/
def Arguments.buildOptions (s : Settings) (args : Arguments) :
    Except ArgumentFault BuildOptions := do
  let mode ← match args.text? "optimizationLevel" with
    | none => pure .usual
    | some name =>
      match OptimizeMode.ofName? name with
      | some mode => pure mode
      | none => throw (.unknownMode name)
  let dependencies ← args.textList "dependencies"
  let steps ← args.textList "buildSteps"
  return {
    zigVersion := (args.text? "zigVersion").getD s.defaultZigVersion
    mode
    target := (args.text? "targetTriple").getD []
    dependencies
    steps }

def Arguments.project (args : Arguments) : Project where
  name := (args.text? "projectName").getD Project.unnamed.name
  version := (args.text? "version").getD Project.unnamed.version
  minimumZigVersion := Project.unnamed.minimumZigVersion

namespace Tool

def run (s : Settings) (tool : Tool) (args : Arguments) : Except ArgumentFault (Traced Text) :=
  match tool with
  | optimizeCode =>
    (args.requireCode s "code").map fun code =>
      optimize code (Json.find? args "optimizationLevel")
  | estimateComputeUnits => (args.requireCode s "code").map fun code => pure (estimate code)
  | generateCode =>
    (args.requireText "prompt").map fun prompt =>
      pure (generate prompt ((args.text? "context").getD []))
  | getRecommendations =>
    (args.requireCode s "code").map fun code =>
      recommend Classifier.registry code ((args.text? "prompt").getD [])
  | generateBuildZig => (args.buildOptions s).map fun options => pure (buildScript options)
  | analyzeBuildZig =>
    (args.requireCode s "buildFileContent").map fun script => pure (analyzeScript script)
  | generateBuildZon =>
    (args.dependencyList "dependencies").map fun dependencies =>
      pure (manifest args.project dependencies)

def handlers : List (String × Tool) := [
  ("optimize_code", optimizeCode),
  ("estimate_compute_units", estimateComputeUnits),
  ("generate_code", generateCode),
  ("get_recommendations", getRecommendations),
  ("generate_build_zig", generateBuildZig),
  ("analyze_build_zig", analyzeBuildZig),
  ("generate_build_zon", generateBuildZon)]

def ofName? (name : Text) : Option Tool := Text.registered? handlers name

def call (s : Settings) (tool : Tool) (args : Arguments) : Traced (Except ArgumentFault Text) :=
  match tool.run s args with
  | .error fault => do
    .log .warning (.concat ["Invalid parameters for ", tool.name, ": ", fault.message])
    return .error fault
  | .ok answer => do
    let text ← answer
    .log .debug (.concat [tool.name, " returned ", .ofNat text.length, " characters"])
    return .ok text

end Tool

end ZigAdvisor
