import ZigAdvisor.Pattern.Search
import ZigAdvisor.Text.Lines

/-!
# Depth of loops by lines

An approximation of how deep loops are nested that looks at whole lines. A line that opens a loop
goes one deeper, and any other line with a closing brace comes one up, never above the top. A
block of another kind that closes inside a loop makes the loop look closed.
-/

namespace ZigAdvisor

def Pattern.loopKeyword : Pattern := .inOrder [.wordEdge, .anyOf ["for", "while"], .wordEdge]

namespace Text

/-- Whether a brace opens after the first loop keyword of a line. -/
def opensLoop (line : Text) : Bool :=
  match Pattern.loopKeyword.find? line with
  | some keyword => keyword.rest.any (· == ('{' : CodePoint))
  | none => false

def closesBlock (line : Text) : Bool := line.any (· == ('}' : CodePoint))

end Text

/-- The depth at a line and the greatest depth so far. -/
structure LoopDepth where
  current : Nat
  deepest : Nat

namespace LoopDepth

def step (d : LoopDepth) (line : Text) : LoopDepth :=
  if line.opensLoop then ⟨d.current + 1, max d.deepest (d.current + 1)⟩
  else if line.closesBlock then ⟨d.current - 1, d.deepest⟩
  else d

def run (lines : List Text) : LoopDepth := lines.foldl step ⟨0, 0⟩

end LoopDepth

def maxLoopDepth (code : Text) : Nat := (LoopDepth.run code.lines).deepest

end ZigAdvisor
