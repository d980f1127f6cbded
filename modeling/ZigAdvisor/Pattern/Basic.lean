import ZigAdvisor.Text.Classes

/-!
# Patterns

A small language for what is looked for in source text: sets of code points, bounded and unbounded
repeats, alternatives, conditions on what stands before and after. A pattern started at a cursor
has a list of ends, the preferred one first: repeats prefer to go far, and an alternative prefers
its first branch. A match is the first end.
-/

namespace ZigAdvisor

inductive CharClass
  | point (c : CodePoint)
  | range (first last : CodePoint)
  | word
  | decimal
  | blank
deriving DecidableEq

def CharClass.mem : CharClass → CodePoint → Bool
  | .point d, c => d == c
  | .range first last, c => first.val ≤ c.val && c.val ≤ last.val
  | .word, c => c.isWord
  | .decimal, c => c.isDecimal
  | .blank, c => c.isBlank

structure CharSet where
  negated : Bool
  classes : List CharClass
deriving DecidableEq

namespace CharSet

def mem (s : CharSet) (c : CodePoint) : Bool := s.classes.any (·.mem c) != s.negated

def word : CharSet := ⟨false, [.word]⟩

def decimal : CharSet := ⟨false, [.decimal]⟩

def blank : CharSet := ⟨false, [.blank]⟩

def of (points : Text) : CharSet := ⟨false, points.map .point⟩

def except (points : Text) : CharSet := ⟨true, points.map .point⟩

def inLine : CharSet := except "\n"

def lowerLetter : CharSet := ⟨false, [.range 'a' 'z']⟩

def upperLetter : CharSet := ⟨false, [.range 'A' 'Z']⟩

end CharSet

inductive Pattern
  /-- These code points, in this order. -/
  | lit (t : Text)
  /-- One code point of the set. -/
  | one (s : CharSet)
  /-- At least `least` code points of the set, at most `most` if given, as many as there are. -/
  | many (s : CharSet) (least : Nat) (most : Option Nat)
  /-- The first, then the second. -/
  | seq (p q : Pattern)
  /-- The first, or else the second. -/
  | alt (p q : Pattern)
  /-- Any number of times, as often as possible; a round that consumes nothing ends it. -/
  | star (p : Pattern)
  /-- Nothing, where the pattern would match. -/
  | ahead (p : Pattern)
  /-- Nothing, where the pattern would not match. -/
  | notAhead (p : Pattern)
  /-- Nothing, unless a code point of the set stands before. -/
  | notAfter (s : CharSet)
  /-- Nothing, between a word character and something else. -/
  | wordEdge
  /-- Nothing, at the start of the text or after a line feed. -/
  | lineStart
  /-- Nothing, at the end of the text or before a line feed. -/
  | lineEnd

/-- A place in a text: how many code points lie before it, the last of them, and what follows. -/
structure Cursor where
  offset : Nat
  before : Option CodePoint
  rest : Text

namespace Cursor

def start (t : Text) : Cursor := ⟨0, none, t⟩

def past? (t : Text) (c : Cursor) : Option Cursor :=
  match t, c with
  | [], c => some c
  | x :: t, ⟨offset, _, y :: rest⟩ => if x = y then past? t ⟨offset + 1, some y, rest⟩ else none
  | _ :: _, ⟨_, _, []⟩ => none

def skip? (s : CharSet) : Nat → Cursor → Option Cursor
  | 0, c => some c
  | n + 1, ⟨offset, _, y :: rest⟩ => if s.mem y then skip? s n ⟨offset + 1, some y, rest⟩ else none
  | _ + 1, ⟨_, _, []⟩ => none

/-- The places after 0, 1, 2, … code points of the set, at most `most` of them, the farthest
first and `nearer` last. -/
def stops (s : CharSet) (most : Option Nat) (offset : Nat) (before : Option CodePoint)
    (rest : Text) (nearer : List Cursor) : List Cursor :=
  match rest with
  | [] => ⟨offset, before, []⟩ :: nearer
  | y :: rest =>
    if most ≠ some 0 ∧ s.mem y then
      stops s (most.map (· - 1)) (offset + 1) (some y) rest (⟨offset, before, y :: rest⟩ :: nearer)
    else ⟨offset, before, y :: rest⟩ :: nearer

/-- Where repeated rounds lead, the longest way first. -/
def rounds (step : Cursor → List Cursor) : (fuel : Nat) → Cursor → List Cursor
  | 0, c => [c]
  | fuel + 1, c => ((step c).filter (c.offset < ·.offset)).flatMap (rounds step fuel) ++ [c]

end Cursor

namespace Pattern

/-- The ends of a pattern started at a cursor, the preferred one first. -/
def ends : Pattern → Cursor → List Cursor
  | lit t, c => (c.past? t).toList
  | one s, ⟨offset, _, y :: rest⟩ => if s.mem y then [⟨offset + 1, some y, rest⟩] else []
  | one _, ⟨_, _, []⟩ => []
  | many s least most, c =>
    match c.skip? s least with
    | some d => Cursor.stops s (most.map (· - least)) d.offset d.before d.rest []
    | none => []
  | seq p q, c => (p.ends c).flatMap q.ends
  | alt p q, c => p.ends c ++ q.ends c
  | star p, c => Cursor.rounds p.ends c.rest.length c
  | ahead p, c => if (p.ends c).isEmpty then [] else [c]
  | notAhead p, c => if (p.ends c).isEmpty then [c] else []
  | notAfter s, c => if c.before.any s.mem then [] else [c]
  | wordEdge, c =>
    if c.before.any CodePoint.isWord != c.rest.head?.any CodePoint.isWord then [c] else []
  | lineStart, c => if c.before.all (· == ('\n' : CodePoint)) then [c] else []
  | lineEnd, c => if c.rest.head?.all (· == ('\n' : CodePoint)) then [c] else []

def end? (p : Pattern) (c : Cursor) : Option Cursor := (p.ends c).head?

instance : Coe String Pattern := ⟨fun s => lit s⟩

instance : Coe CharSet Pattern := ⟨one⟩

def inOrder : List Pattern → Pattern
  | [] => lit []
  | [p] => p
  | p :: q :: rest => seq p (inOrder (q :: rest))

def anyOf : List Pattern → Pattern
  | [] => one ⟨false, []⟩
  | [p] => p
  | p :: q :: rest => alt p (anyOf (q :: rest))

def optional (p : Pattern) : Pattern := alt p (lit [])

def blanks : Pattern := many .blank 0 none

def gap : Pattern := many .blank 1 none

def name : Pattern := many .word 1 none

def number : Pattern := many .decimal 1 none

def upTo (s : CharSet) (most : Nat) : Pattern := many s 0 (some most)

def word (s : String) : Pattern := inOrder [wordEdge, s, wordEdge]

def call (s : String) : Pattern := inOrder [s, blanks, "("]

end Pattern

end ZigAdvisor
