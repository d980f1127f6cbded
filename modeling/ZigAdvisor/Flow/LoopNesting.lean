import ZigAdvisor.Pattern.Search

/-!
# Loops inside loops

Source text is read as a sequence of loop headers, braces and semicolons. A loop counts as nested
when its header comes inside the body of another loop or directly after another header. Blocks of
other kinds do not hide the nesting; braces in strings and comments are read like all others.
-/

namespace ZigAdvisor

namespace Pattern

def loopHeader (keywords : List String) : Pattern :=
  .inOrder [.wordEdge, .anyOf (keywords.map fun k => .lit (.ofString k)), .blanks, "("]

def anyLoop : Pattern := loopHeader ["for", "while"]

def forLoop : Pattern := loopHeader ["for"]

end Pattern

inductive LoopToken
  | header
  | opening
  | closing
  | terminator
deriving DecidableEq

namespace LoopToken

def punctuation : CharSet := .of "\x7b\x7d;"

def atFront (rest : Text) : LoopToken :=
  if rest.head? = some ('{' : CodePoint) then opening
  else if rest.head? = some ('}' : CodePoint) then closing
  else if rest.head? = some (';' : CodePoint) then terminator
  else header

def scan (loop : Pattern) (t : Text) : List LoopToken :=
  ((Pattern.alt loop punctuation).starts t).map fun c => atFront c.rest

end LoopToken

/-- What is known after some tokens: the nested loops so far, the brace depth, the depths at which
the bodies of the open loops began, the innermost first, and whether a header waits for its body. -/
structure LoopNesting where
  nested : Nat
  depth : Nat
  bodies : List Nat
  waiting : Bool

namespace LoopNesting

def start : LoopNesting := ⟨0, 0, [], false⟩

def step (s : LoopNesting) : LoopToken → LoopNesting
  | .header =>
    { s with
      nested := if s.waiting || !s.bodies.isEmpty then s.nested + 1 else s.nested
      waiting := true }
  | .opening =>
    { s with
      bodies := if s.waiting then s.depth :: s.bodies else s.bodies
      waiting := false
      depth := s.depth + 1 }
  | .closing =>
    { s with
      depth := s.depth - 1
      bodies := s.bodies.dropWhile (s.depth - 1 ≤ ·) }
  | .terminator => { s with waiting := false }

def run (tokens : List LoopToken) : LoopNesting := tokens.foldl step start

end LoopNesting

/-- The number of loops inside another loop, of those whose header matches a pattern. -/
def nestedLoops (loop : Pattern) (code : Text) : Nat :=
  (LoopNesting.run (LoopToken.scan loop code)).nested

end ZigAdvisor
