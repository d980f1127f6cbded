import ZigAdvisor.Flow.Complexity
import ZigAdvisor.Flow.LoopDepth
import ZigAdvisor.Number.Double
import ZigAdvisor.Review.Testing

/-!
# Metrics of a file

Size, comment density, function length and nesting of a whole file.
-/

namespace ZigAdvisor

namespace FileMetrics

def metrics : List Metric := [
  ⟨"functions", .functionHeader⟩,
  ⟨"pub_functions", .inOrder [.wordEdge, "pub", .gap, "fn", .gap, .name, .blanks, "("]⟩,
  ⟨"tests", .anyOf [Testing.namedTest, Testing.unnamedTest]⟩,
  ⟨"comment_lines", .inOrder [.lineStart, .blanks, "//"]⟩,
  ⟨"structs",
    .inOrder [.wordEdge, .anyOf ["struct", "enum", "union"], .wordEdge, .blanks,
      .optional (.inOrder ["(", .blanks, .many .word 0 none, .blanks, ")"]), .blanks,
      "\x7b"]⟩]

/-- A line that is neither blank nor a comment. -/
def isCodeLine (line : Text) : Bool :=
  !line.isBlank && !Text.startsWith line.trimLeft "//"

/-- The figures that come from whole lines, with counts of comment lines and functions given. Where
there is nothing to divide by, a quotient is zero. -/
def lineFigures (code : Text) (commentLines functions : Nat) : Metrics :=
  let lines := code.lines
  let codeLines := lines.countP isCodeLine
  [("lines", lines.length),
    ("code_lines", codeLines),
    ("comment_density_pct",
      if lines.isEmpty then 0 else roundDiv (100 * commentLines) lines.length),
    ("avg_function_length", if functions = 0 then 0 else codeLines / functions)]

def measure (code : Text) : Metrics :=
  let counts := Metric.measure metrics code
  counts ++ Complexity.measure code ++
    lineFigures code (counts.get "comment_lines") (counts.get "functions") ++
    [("nesting_depth", maxLoopDepth code)]

def longFunction : Nat := 50

def deepNesting : Nat := 3

def lowDensity : Nat := 5

/-- The number of code lines from which the comment density is judged. -/
def densityLines : Nat := 20

open Severity Rule in
def rules : List Rule := [
  ⟨info, fun _ => true, fun m =>
    .concat ["Lines: ", .ofNat (m.get "lines"), " total, ", .ofNat (m.get "code_lines"),
      " code, ", .ofNat (m.get "comment_lines"), " comment"]⟩,
  ⟨info, fun _ => true, fun m =>
    .concat ["Functions: ", .ofNat (m.get "functions"), " (", .ofNat (m.get "pub_functions"),
      " public), containers: ", .ofNat (m.get "structs")]⟩,
  ⟨info, fun _ => true, fun m =>
    .concat ["Comment density: ", .ofNat (m.get "comment_density_pct"), "%"]⟩,
  ⟨info, (·.has "functions"), fun m =>
    .concat ["Average function length: ~", .ofNat (m.get "avg_function_length"), " lines"]⟩,
  ⟨info, fun _ => true, fun m =>
    .concat ["Max loop nesting depth: ", .ofNat (m.get "nesting_depth"),
      " (line-based approximation)"]⟩,
  ⟨info, fun _ => true, fun m =>
    .concat ["Estimated complexity: ", (Complexity.estimate m).label, " (heuristic estimate)"]⟩,
  ⟨info, fun _ => true, fun m =>
    .concat ["Test ratio: ", .ofNat (m.get "tests"), " test(s) per ",
      .ofNat (m.get "functions"), " function(s)"]⟩,
  onCondition warning (fun m => longFunction < m.get "avg_function_length")
    "Functions are long on average; split them into smaller units",
  onCondition warning (fun m => deepNesting ≤ m.get "nesting_depth")
    "Deeply nested loops; extract inner loops into functions",
  onCondition suggestion
    (fun m => densityLines ≤ m.get "code_lines" && m.get "comment_density_pct" < lowDensity)
    "Low comment density; document non-obvious logic",
  onCondition suggestion (fun m => m.has "functions" && m.lacks "tests")
    "No tests alongside these functions"]

def classifier : Classifier where
  name := "metrics"
  title := "Code Metrics"
  allClear := "No metrics available"
  measure := measure
  rules := rules
  audit _ := []

end FileMetrics

end ZigAdvisor
