import ZigAdvisor.Review.Rule

/-!
# Style

Naming, layout and documentation conventions.
-/

namespace ZigAdvisor

namespace Pattern

/-- A letter of ASCII in either case. The letter i also stands for its dotted capital and its
dotless small form. -/
def eitherCase (c : Char) : Pattern :=
  .one (.of ([.ofChar c.toLower, .ofChar c.toUpper] ++
    if c.toLower = 'i' then [.ofNat 0x130, .ofNat 0x131] else []))

def anyCase (s : String) : Pattern := .inOrder (s.toList.map eitherCase)

end Pattern

namespace Style

def capitalised : Pattern := .inOrder [CharSet.upperLetter, .many .lowerLetter 1 none]

def typeDeclaration : Pattern :=
  .anyOf [
    .inOrder [.blanks,
      .anyOf ["struct", "enum", "union", "error", "packed", "extern", "opaque"], .wordEdge],
    .inOrder [.blanks, "@", .anyOf ["This", "import", "Type"], .wordEdge]]

def metrics : List Metric := [
  ⟨"pascal_case_assign",
    .inOrder [.wordEdge, capitalised, .star capitalised, .blanks, "=", .notAhead "=",
      .notAhead typeDeclaration]⟩,
  ⟨"camel_case_assign",
    .inOrder [.wordEdge, .many .lowerLetter 1 none, capitalised, .blanks, "=",
      CharSet.except "="]⟩,
  ⟨"trailing_whitespace",
    .inOrder [.notAfter (.of " \t"), .many (.of " \t") 1 none, .lineEnd]⟩,
  ⟨"tabs", "\t"⟩,
  ⟨"doc_comments", .inOrder ["//", CharSet.of "!/", " "]⟩,
  ⟨"todo_comments",
    .inOrder ["//", .blanks,
      .anyOf [.anyCase "TODO", .anyCase "FIXME", .anyCase "XXX"]]⟩,
  ⟨"long_lines", .inOrder [.lineStart, .many .inLine 101 none, .lineEnd]⟩,
  ⟨"pub_decls",
    .inOrder [.wordEdge, "pub", .gap, .anyOf ["fn", "const", "var"], .wordEdge]⟩]

open Severity Rule in
def rules : List Rule := [
  onPresence suggestion "pascal_case_assign"
    "Use snake_case for variable names instead of PascalCase",
  onPresence suggestion "camel_case_assign"
    "Use snake_case for variable names instead of camelCase",
  ⟨suggestion, (·.has "trailing_whitespace"), fun m =>
    .concat ["Remove trailing whitespace (", .ofNat (m.get "trailing_whitespace"), " lines)"]⟩,
  onPresence suggestion "tabs" "Use spaces instead of tabs for indentation (zig fmt)",
  onAbsence suggestion "doc_comments"
    "Add documentation comments (///) for public declarations",
  ⟨suggestion, (·.has "long_lines"), fun m =>
    .concat ["Consider breaking long lines (", .ofNat (m.get "long_lines"),
      " lines >100 chars)"]⟩,
  onPresence warning "todo_comments" "Address TODO/FIXME comments before production",
  ⟨strength, (·.has "doc_comments"), fun m =>
    .concat ["Documentation comments present (", .ofNat (m.get "doc_comments"), ")"]⟩]

def classifier : Classifier where
  name := "style"
  title := "Style and Conventions"
  allClear := "Code follows Zig style guidelines"
  measure := Metric.measure metrics
  rules := rules
  audit _ := []

end Style

end ZigAdvisor
