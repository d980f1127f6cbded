import ZigAdvisor.Build.Issue
import ZigAdvisor.Review.Rule

/-!
# Build system

Hints about building for ordinary sources, and the review of build scripts for sources that define
the entry point of one.
-/

namespace ZigAdvisor.BuildSystem

def entryPoint : Pattern :=
  .inOrder [.wordEdge, "pub", .gap, "fn", .gap, "build", .blanks, "("]

def metrics : List Metric := [
  ⟨"build_fn", entryPoint⟩,
  ⟨"relative_import",
    .inOrder ["@import(", .blanks, "\"", .optional (.anyOf ["../", "./"]),
      .many ⟨false, [.word, .point '.', .point '/', .point '-']⟩ 1 none, ".zig\"", .blanks,
      ")"]⟩,
  ⟨"c_import", .call "@cImport"⟩,
  ⟨"builtin_mode", .inOrder ["builtin.mode", .wordEdge]⟩,
  ⟨"build_options",
    .anyOf [.inOrder ["@import(", .blanks, "\"build_options\"", .blanks, ")"],
      "b.addOptions"]⟩]

open Severity Rule in
def rules : List Rule := [
  onCondition suggestion (fun m => m.lacks "build_fn" && m.has "relative_import")
    ("Expose shared files as modules in build.zig (b.addModule/addImport) " ++
      "instead of relative @import paths"),
  onCondition suggestion (fun m => m.lacks "build_fn" && m.has "c_import")
    "Link the libraries behind @cImport in build.zig (linkLibC, linkSystemLibrary)",
  onPresence info "builtin_mode"
    "Code branches on builtin.mode; check behavior in every optimize mode",
  onPresence strength "build_options" "Passes configuration through build options"]

def auditScript (code : Text) : List Finding :=
  if entryPoint.occursIn code then
    match BuildScript.issues code with
    | [] => [⟨.strength, BuildScript.upToDate⟩]
    | found => found.map fun i => ⟨.suggestion, i.advice⟩
  else []

def classifier : Classifier where
  name := "build_system"
  title := "Build System"
  allClear := "No build system concerns detected"
  measure := Metric.measure metrics
  rules := rules
  audit := auditScript

end ZigAdvisor.BuildSystem
