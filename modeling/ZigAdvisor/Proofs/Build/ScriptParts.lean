import ZigAdvisor.Build.Script
import ZigAdvisor.Proofs.Build.FreeText
import ZigAdvisor.Proofs.Zig.Parts

/-!
# The parts of a build script

Behind its header, a build script is code of its own with string literals in between. These are
literals of the template, the default target, each package's name three times, and the name of each
further step with what the step is for (`write_scriptParts`). The names of variables stand in the
code, since a variable's name has no marks.
-/

namespace ZigAdvisor

open Text

theorem CodePoint.quiet_of_isWord {c : CodePoint} (h : c.isWord = true) : Zig.Quiet c := by
  have hmarks : ∀ d ∈ [CodePoint.quote, .apostrophe, '@', '/', .backslash], d.isWord = false := by
    decide
  have hne (d : CodePoint) (hd : d.isWord = false) : c ≠ d := by
    rintro rfl
    exact absurd h (by simp [hd])
  simp only [List.forall_mem_cons] at hmarks
  obtain ⟨hquote, hapostrophe, hat, hsolidus, hbackslash, -⟩ := hmarks
  exact ⟨hne _ hquote, hne _ hapostrophe, hne _ hat, hne _ hsolidus, hne _ hbackslash⟩

theorem Zig.quiet_identifier (name : Text) : ∀ c ∈ identifier name, Quiet c := by
  have hlow : Quiet '_' := by decide
  have hwords : ∀ c ∈ name.map fun c => if c.isWord then c else ('_' : CodePoint), Quiet c := by
    rw [List.forall_mem_map]
    intro c _
    split
    · next hword => exact CodePoint.quiet_of_isWord hword
    · exact hlow
  rcases identifier_eq name with h | h
  · rw [h]
    exact hwords
  · rw [h, List.forall_mem_cons]
    exact ⟨hlow, hwords⟩

namespace BuildScript

open Zig

def targetFront : Part :=
  .code (concat [
    ".\x7b\n",
    "        .default_target = std.Target.Query.parse(.\x7b\n",
    "            .arch_os_abi = "])

def targetBack : Part :=
  .code (concat [
    ",\n",
    "        \x7d) catch @panic(\"invalid target triple\"),\n",
    "    \x7d"])

def targetParts (target : Text) : List Part :=
  if target.isEmpty then [.code ".\x7b\x7d"] else [targetFront, .literal target, targetBack]

/-- Code around the name of a variable that is made from a free-form name. -/
structure Setting where
  front : Text
  /-- The end of the variable's name. -/
  ending : Text
  back : Text
  quiet : ∀ c ∈ front ++ (ending ++ back), Quiet c := by decide
  isCode : IsCode front := by decide
  isName : ∀ c ∈ ending, c.isNameChar = true := by decide
  first : ∃ c ∈ back.head?, c.isNameChar = false := by decide
  last : ∃ c ∈ back.getLast?, c.isNameChar = false := by decide

namespace Setting

variable {s : Setting} {name : Text}

def variableName (s : Setting) (name : Text) : Text := Zig.identifier name ++ s.ending

def text (s : Setting) (name : Text) : Text := s.front ++ (s.variableName name ++ s.back)

theorem quiet_text (s : Setting) (name : Text) : ∀ c ∈ s.text name, Quiet c := by
  have hquiet := s.quiet
  rw [List.forall_mem_append, List.forall_mem_append] at hquiet
  rw [text, variableName, List.append_assoc, List.forall_mem_append, List.forall_mem_append,
    List.forall_mem_append]
  exact ⟨hquiet.1, quiet_identifier name, hquiet.2⟩

theorem isCode_text (s : Setting) (name : Text) : IsCode (s.text name) := by
  obtain ⟨c, hlast, hc⟩ := s.last
  obtain ⟨back, hback⟩ := List.getLast?_eq_some_iff.mp hlast
  have hquiet := s.quiet_text name
  rw [text, hback, ← List.append_assoc, ← List.append_assoc] at hquiet ⊢
  rw [List.forall_mem_append, List.forall_mem_singleton] at hquiet
  exact isCode_of_quiet hquiet.1 hquiet.2 hc

def part (s : Setting) (name : Text) : Part := .code (s.text name) (s.isCode_text name)

theorem quotations_part (s : Setting) (name : Text) : quotations (s.part name).tokens = [] :=
  quotations_of_quiet (s.quiet_text name)

end Setting

def lookup : Setting where
  front := "    const "
  ending := "_dep"
  back := " = b.dependency("

def moduleOf : Setting where
  front := ", "
  ending := "_dep"
  back := ".module("

def making : Setting where
  front := "    const "
  ending := "_step"
  back := " = b.step("

def waiting : Setting where
  front := concat [");\n", "    "]
  ending := "_step"
  back := ".dependOn(b.getInstallStep());\n"

def importPart : Part :=
  .code (concat [
    ", .\x7b\n",
    "        .target = target,\n",
    "        .optimize = optimize,\n",
    "    \x7d);\n",
    "    exe.root_module.addImport("])

def dependencyParts (name : Text) : List Part :=
  [lookup.part name, .literal name, importPart, .literal name, moduleOf.part name, .literal name,
    .code "));\n"]

def purpose (name : Text) : Text := concat ["Run the ", name, " step"]

def stepParts (name : Text) : List Part :=
  [making.part name, .literal name, .code ", ", .literal (purpose name), waiting.part name]

def packageParts (o : BuildOptions) : List Part :=
  if o.packages = [] then [.code "    // No external dependencies declared\n"]
  else o.packages.flatMap dependencyParts

def furtherParts (o : BuildOptions) : List Part :=
  if o.furtherSteps = [] then []
  else .code "\n    // Custom steps\n" :: o.furtherSteps.flatMap stepParts

def openingPart : Part :=
  .code (concat [
    "const std = @import(\"std\");\n",
    "\n",
    "pub fn build(b: *std.Build) void \x7b\n",
    "    // Lets the person running `zig build` choose the target; native by default.\n",
    "    const target = b.standardTargetOptions("])

def modePart : Part :=
  .code (concat [
    ");\n",
    "\n",
    "    // Debug, ReleaseSafe, ReleaseFast or ReleaseSmall via -Doptimize.\n",
    "    const optimize = b.standardOptimizeOption("])

def optimizePart (mode : OptimizeMode) : Part :=
  .code (optimizeArgument mode) (by cases mode <;> decide)

def executablePart : Part :=
  .code (concat [
    ");\n",
    "\n",
    "    const exe = b.addExecutable(.\x7b\n",
    "        .name = \"main\",\n",
    "        .root_source_file = b.path(\"src/main.zig\"),\n",
    "        .target = target,\n",
    "        .optimize = optimize,\n",
    "    \x7d);\n",
    "\n",
    "    // Dependencies from build.zig.zon\n"])

def installPart : Part := .code (concat ["\n", "    b.installArtifact(exe);\n", "\n"])

def runAndTestPart : Part :=
  .code runAndTest (by unfold runAndTest; repeat rw [ofString_ofList]
                       decide +kernel)

def bodyParts (o : BuildOptions) : List Part :=
  modePart :: optimizePart o.mode :: executablePart ::
    (packageParts o ++ installPart :: runAndTestPart :: (furtherParts o ++ [.code "\x7d\n"]))

def scriptParts (o : BuildOptions) : List Part :=
  openingPart :: (targetParts o.target ++ bodyParts o)

variable {o : BuildOptions}

theorem write_targetParts (target : Text) : write (targetParts target) = targetArgument target := by
  have hfront : ofString "            .arch_os_abi = \"" =
      ofString "            .arch_os_abi = " ++ [.quote] := by decide
  have hback : ofString "\",\n" = .quote :: ofString ",\n" := by decide
  cases h : target.isEmpty <;>
    simp [targetParts, targetFront, targetBack, targetArgument, h, write, Part.text, hfront, hback,
      concat]

theorem write_dependencyParts (name : Text) :
    write (dependencyParts name) = dependencyBlock name := by
  have hlookup : ofString "_dep = b.dependency(\"" =
      ofString "_dep" ++ (ofString " = b.dependency(" ++ [.quote]) := by decide
  have hmodule : ofString "_dep.module(\"" =
      ofString "_dep" ++ (ofString ".module(" ++ [.quote]) := by decide
  have hoptions : ofString "\", .\x7b\n" = .quote :: ofString ", .\x7b\n" := by decide
  have himport : ofString "    exe.root_module.addImport(\"" =
      ofString "    exe.root_module.addImport(" ++ [.quote] := by decide
  have hnext : ofString "\", " = .quote :: ofString ", " := by decide
  have hend : ofString "\"));\n" = .quote :: ofString "));\n" := by decide
  simp [dependencyParts, dependencyBlock, lookup, moduleOf, importPart, Setting.part, Setting.text,
    Setting.variableName, write, Part.text, hlookup, hmodule, hoptions, himport, hnext, hend,
    concat]

theorem write_stepParts (name : Text) : write (stepParts name) = stepBlock name := by
  have hmaking : ofString "_step = b.step(\"" =
      ofString "_step" ++ (ofString " = b.step(" ++ [.quote]) := by decide
  have hpurpose : ofString "\", \"Run the " =
      .quote :: (ofString ", " ++ .quote :: ofString "Run the ") := by decide
  have hend : ofString " step\");\n" =
      ofString " step" ++ .quote :: ofString ");\n" := by decide
  have hwaiting : ofString "_step.dependOn(b.getInstallStep());\n" =
      ofString "_step" ++ ofString ".dependOn(b.getInstallStep());\n" := by decide
  simp [stepParts, stepBlock, making, waiting, purpose, Setting.part, Setting.text,
    Setting.variableName, write, Part.text, hmaking, hpurpose, hend, hwaiting, concat]

theorem write_packageParts (o : BuildOptions) : write (packageParts o) = dependencySection o := by
  unfold packageParts dependencySection
  cases o.packages with
  | nil => exact List.flatMap_singleton ..
  | cons name names =>
    rw [if_neg (List.cons_ne_nil name names)]
    exact write_flatMap write_dependencyParts _

theorem write_furtherParts (o : BuildOptions) : write (furtherParts o) = stepSection o := by
  unfold furtherParts stepSection
  cases o.furtherSteps with
  | nil => rfl
  | cons name names =>
    rw [if_neg (List.cons_ne_nil name names), write_cons, write_flatMap write_stepParts]
    simp [Part.text, concat]

/-- A script is its header and its parts. -/
theorem write_scriptParts (o : BuildOptions) :
    generate o = header o ++ write (scriptParts o) := by
  simp [scriptParts, bodyParts, write_cons, write_append, write_targetParts, write_packageParts,
    write_furtherParts, generate, opening, executable, concat, openingPart, modePart, optimizePart,
    executablePart, installPart, runAndTestPart, Part.text]

/-! ## Literals -/

def targetLiterals (target : Text) : List Text :=
  if target.isEmpty then [] else [target, "invalid target triple"]

def dependencyLiterals (name : Text) : List Text := [name, name, name]

def stepLiterals (name : Text) : List Text := [name, purpose name]

def literals (o : BuildOptions) : List Text :=
  List.flatten [
    ["std"], targetLiterals o.target, ["main", "src/main.zig"],
    o.packages.flatMap dependencyLiterals,
    ["run", "Run the application", "src/main.zig", "test", "Run unit tests"],
    o.furtherSteps.flatMap stepLiterals]

theorem quotations_optimizePart (mode : OptimizeMode) :
    quotations (optimizePart mode).tokens = [] := by
  cases mode <;> decide

theorem meant_targetParts (target : Text) :
    meant (targetParts target) = strings (targetLiterals target) := by
  have hfront : quotations targetFront.tokens = [] := by
    simp only [targetFront, Part.tokens]
    repeat rw [ofString_ofList]
    decide
  have hback : quotations targetBack.tokens = strings ["invalid target triple"] := by
    simp only [targetBack, Part.tokens]
    repeat rw [ofString_ofList]
    decide
  unfold targetParts targetLiterals
  split
  · decide
  · rw [meant_cons, meant_cons, meant_cons, hfront, hback]
    rfl

theorem meant_dependencyParts (name : Text) :
    meant (dependencyParts name) = strings (dependencyLiterals name) := by
  have himport : quotations importPart.tokens = [] := by
    simp only [importPart, Part.tokens]
    repeat rw [ofString_ofList]
    decide
  simp only [dependencyParts, meant_cons, Setting.quotations_part, himport]
  rfl

theorem meant_stepParts (name : Text) :
    meant (stepParts name) = strings (stepLiterals name) := by
  simp only [stepParts, meant_cons, Setting.quotations_part]
  rfl

theorem meant_packageParts (o : BuildOptions) :
    meant (packageParts o) = strings (o.packages.flatMap dependencyLiterals) := by
  unfold packageParts
  split
  · next h =>
    rw [h]
    decide
  · rw [strings_flatMap]
    exact meant_flatMap meant_dependencyParts _

theorem meant_furtherParts (o : BuildOptions) :
    meant (furtherParts o) = strings (o.furtherSteps.flatMap stepLiterals) := by
  have hremark : quotations (Lexer.emitted .between "\n    // Custom steps\n") = [] := by
    decide
  unfold furtherParts
  split
  · next h =>
    rw [h]
    rfl
  · rw [meant_cons, strings_flatMap, meant_flatMap meant_stepParts, Part.tokens, hremark]
    rfl

/-- A script means the literals of the template and those of its options. -/
theorem meant_scriptParts (o : BuildOptions) : meant (scriptParts o) = strings (literals o) := by
  have hopening : quotations openingPart.tokens = strings ["std"] := by
    simp only [openingPart, Part.tokens]
    repeat rw [ofString_ofList]
    decide
  have hmode : quotations modePart.tokens = [] := by
    simp only [modePart, Part.tokens]
    repeat rw [ofString_ofList]
    decide
  have hexecutable : quotations executablePart.tokens = strings ["main", "src/main.zig"] := by
    simp only [executablePart, Part.tokens]
    repeat rw [ofString_ofList]
    decide
  have hinstall : quotations installPart.tokens = [] := by decide
  have hrun : quotations runAndTestPart.tokens =
      strings ["run", "Run the application", "src/main.zig", "test", "Run unit tests"] := by
    simp only [runAndTestPart, runAndTest, Part.tokens]
    repeat rw [ofString_ofList]
    decide +kernel
  have hend : meant [.code "\x7d\n"] = [] := by decide
  simp only [scriptParts, bodyParts, meant_cons, meant_append, meant_targetParts,
    meant_packageParts, meant_furtherParts, quotations_optimizePart, hopening, hmode, hexecutable,
    hinstall, hrun, hend, literals, List.flatten_cons, List.flatten_nil, strings_append,
    List.append_nil, List.nil_append]

theorem verbatim_purpose {name : Text} : Verbatim (purpose name) ↔ Verbatim name := by
  have hfront : Verbatim "Run the " := by decide
  have hback : Verbatim " step" := by decide
  rw [purpose, concat_cons, concat_cons, concat_cons, concat_nil, List.append_nil,
    verbatim_append, verbatim_append, and_iff_right hfront, and_iff_left hback]

theorem verbatim_targetParts (target : Text) :
    (∀ s ∈ values (targetParts target), Verbatim s) ↔ Verbatim target := by
  unfold targetParts
  split
  · next h =>
    rw [List.isEmpty_iff.mp h]
    decide
  · exact List.forall_mem_singleton

/-- Behind its target, a script puts the names of packages and steps between marks. -/
theorem verbatim_packageParts (o : BuildOptions) :
    (∀ s ∈ values (packageParts o), Verbatim s) ↔ ∀ name ∈ o.dependencies, Verbatim name := by
  have hblock (name : Text) : values (dependencyParts name) = [name, name, name] := rfl
  have hthrice (name : Text) : (∀ s ∈ [name, name, name], Verbatim s) ↔ Verbatim name := by
    rw [List.forall_mem_cons, List.forall_mem_cons, List.forall_mem_singleton, and_self, and_self]
  simp only [← BuildOptions.mem_packages]
  unfold packageParts
  split
  · next h =>
    rw [h]
    decide
  · rw [values_flatMap hblock, List.forall_mem_flatMap]
    simp only [hthrice]

theorem verbatim_furtherParts (o : BuildOptions) :
    (∀ s ∈ values (furtherParts o), Verbatim s) ↔ ∀ name ∈ o.furtherSteps, Verbatim name := by
  have hblock (name : Text) : values (stepParts name) = [name, purpose name] := rfl
  have hboth (name : Text) : (∀ s ∈ [name, purpose name], Verbatim s) ↔ Verbatim name := by
    rw [List.forall_mem_cons, List.forall_mem_singleton, verbatim_purpose, and_self]
  unfold furtherParts
  split
  · next h =>
    rw [h]
    decide
  · rw [values_cons, values_flatMap hblock, Part.values, List.nil_append, List.forall_mem_flatMap]
    simp only [hboth]

theorem verbatim_bodyParts (o : BuildOptions) : (∀ s ∈ values (bodyParts o), Verbatim s) ↔
    (∀ name ∈ o.dependencies, Verbatim name) ∧ ∀ name ∈ o.furtherSteps, Verbatim name := by
  have hend : values [.code "\x7d\n"] = [] := rfl
  rw [← verbatim_packageParts, ← verbatim_furtherParts]
  simp only [bodyParts, modePart, optimizePart, executablePart, installPart, runAndTestPart,
    values_cons, values_append, Part.values, hend, List.nil_append, List.append_nil,
    List.forall_mem_append]

/-- What a script puts between marks is its target, its packages' names and its steps' names. -/
theorem verbatim_scriptParts (o : BuildOptions) : (∀ s ∈ values (scriptParts o), Verbatim s) ↔
    Verbatim o.target ∧ (∀ name ∈ o.dependencies, Verbatim name) ∧
      ∀ name ∈ o.furtherSteps, Verbatim name := by
  rw [scriptParts, values_cons, values_append, ← verbatim_targetParts, ← verbatim_bodyParts,
    openingPart, Part.values, List.nil_append, List.forall_mem_append]

/-- A target leaves no token open behind its argument, whatever it is. -/
theorem isCode_targetArgument (target : Text) : IsCode (targetArgument target) := by
  unfold targetArgument
  split
  · decide
  · have hline : concat [
        ".\x7b\n",
        "        .default_target = std.Target.Query.parse(.\x7b\n",
        "            .arch_os_abi = \"", target, "\",\n",
        "        \x7d) catch @panic(\"invalid target triple\"),\n",
        "    \x7d"] = concat [
          ".\x7b\n",
          "        .default_target = std.Target.Query.parse(.\x7b\n",
          "            .arch_os_abi = \"", target, "\","] ++ [('\n' : CodePoint)] ++
        concat ["        \x7d) catch @panic(\"invalid target triple\"),\n", "    \x7d"] := by
      have hfeed : ofString "\",\n" = ofString "\"," ++ [('\n' : CodePoint)] := rfl
      simp only [concat_cons, concat_nil, List.append_assoc, List.append_nil, hfeed]
    rw [hline]
    exact (isCode_line _).append (by repeat rw [ofString_ofList]
                                     decide)

/-! ## The header -/

def headerRemarks (o : BuildOptions) : List Text :=
  "! Build script for Zig project" :: concat ["! Zig version: ", o.zigVersion] ::
    concat ["! Preferred optimize mode: ", o.mode.name] ::
      if o.target.isEmpty then [] else [concat ["! Default target: ", o.target]]

theorem header_eq (o : BuildOptions) :
    header o = remarks (headerRemarks o) ++ [('\n' : CodePoint)] := by
  have hfeed : ofString "\n" = [('\n' : CodePoint)] := rfl
  have hbuild : ofString "//! Build script for Zig project\n" =
      ofString "//" ++ (ofString "! Build script for Zig project" ++ [('\n' : CodePoint)]) := by
    decide
  have hrelease : ofString "//! Zig version: " = ofString "//" ++ ofString "! Zig version: " := by
    decide
  have hmode : ofString "//! Preferred optimize mode: " =
      ofString "//" ++ ofString "! Preferred optimize mode: " := by decide
  have htarget : ofString "//! Default target: " =
      ofString "//" ++ ofString "! Default target: " := by decide
  cases h : o.target.isEmpty <;>
    simp [header, headerRemarks, remarks, h, concat, hfeed, hbuild, hrelease, hmode, htarget]

theorem isCode_header (o : BuildOptions) : IsCode (header o) := by
  rw [header_eq]
  exact isCode_line _

/-- The header is remarks, unless the release or the target goes on to another line. -/
theorem tokens_header (hversion : ('\n' : CodePoint) ∉ o.zigVersion)
    (htarget : ('\n' : CodePoint) ∉ o.target) : tokens (header o) = [] := by
  have hplain : ('\n' : CodePoint) ∉ ofString "! Build script for Zig project" ∧
      ('\n' : CodePoint) ∉ ofString "! Zig version: " ∧
      ('\n' : CodePoint) ∉ ofString "! Preferred optimize mode: " ∧
      ('\n' : CodePoint) ∉ ofString "! Default target: " := by decide
  have hmode : ('\n' : CodePoint) ∉ ofString o.mode.name := by cases o.mode <;> decide
  have hlines : ∀ line ∈ headerRemarks o, ('\n' : CodePoint) ∉ line := by
    cases h : o.target.isEmpty <;> simp [headerRemarks, h, concat, hplain, hversion, htarget, hmode]
  rw [tokens, header_eq, List.append_assoc, emitted_remarks hlines]
  rfl

/-- A script is read part by part behind its header. -/
theorem tokens_generate (o : BuildOptions) :
    tokens (generate o) = tokens (header o) ++ tokens (write (scriptParts o)) := by
  rw [write_scriptParts, tokens_append (isCode_header o), tokens_of_isCode (isCode_header o)]

end BuildScript

end ZigAdvisor
