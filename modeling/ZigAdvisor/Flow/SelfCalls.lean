import ZigAdvisor.Flow.LoopNesting

/-!
# Functions that call themselves

Source text is read as a sequence of function headers, calls, braces and semicolons. A function is
recursive when its own body, and not that of a function inside it, has a call of its name. Method
calls count as calls of the method's name.
-/

namespace ZigAdvisor

namespace Pattern

def functionHeader : Pattern := .inOrder [.wordEdge, "fn", .gap, .name, .blanks, "("]

def anyCall : Pattern := .inOrder [.wordEdge, .name, .blanks, "("]

end Pattern

inductive CallToken
  | function (name : Text)
  | call (name : Text)
  | opening
  | closing
  | terminator
deriving DecidableEq

namespace CallToken

def firstWord (t : Text) : Text := t.takeWhile CodePoint.isWord

def afterFirstWord (t : Text) : Text := (t.dropWhile CodePoint.isWord).dropWhile CodePoint.isBlank

def ofCursor (c : Cursor) : CallToken :=
  if c.rest.head? = some ('{' : CodePoint) then opening
  else if c.rest.head? = some ('}' : CodePoint) then closing
  else if c.rest.head? = some (';' : CodePoint) then terminator
  else if (Pattern.functionHeader.end? c).isSome then function (firstWord (afterFirstWord c.rest))
  else call (firstWord c.rest)

def scan (t : Text) : List CallToken :=
  ((Pattern.anyOf [.functionHeader, .anyCall, LoopToken.punctuation]).starts t).map ofCursor

end CallToken

/-- An open function body: the function's name, unless a call of it was counted already, and the
brace depth at which the body began. -/
structure OpenBody where
  name : Option Text
  depth : Nat

/-- What is known after some tokens: the recursive functions so far, the brace depth, the open
function bodies, the innermost first, and the function whose body has not begun. -/
structure SelfCalls where
  found : Nat
  depth : Nat
  bodies : List OpenBody
  pending : Option Text

namespace SelfCalls

def start : SelfCalls := ⟨0, 0, [], none⟩

def step (s : SelfCalls) : CallToken → SelfCalls
  | .function name => { s with pending := some name }
  | .call name =>
    match s.bodies with
    | body :: outer =>
      if body.name = some name then
        { s with found := s.found + 1, bodies := { body with name := none } :: outer }
      else s
    | [] => s
  | .opening =>
    { s with
      bodies := if s.pending.isSome then ⟨s.pending, s.depth⟩ :: s.bodies else s.bodies
      pending := none
      depth := s.depth + 1 }
  | .closing =>
    { s with
      depth := s.depth - 1
      bodies := s.bodies.dropWhile (s.depth - 1 ≤ ·.depth) }
  | .terminator => { s with pending := none }

def run (tokens : List CallToken) : SelfCalls := tokens.foldl step start

end SelfCalls

def recursiveFunctions (code : Text) : Nat := (SelfCalls.run (CallToken.scan code)).found

end ZigAdvisor
