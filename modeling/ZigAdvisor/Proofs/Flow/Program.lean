import ZigAdvisor.Proofs.Flow.LoopLines

/-!
# Programs of loops, blocks and statements

A program is a list of loops, blocks of other kinds and statements, each on lines of its own. What
stands on a line apart from the keyword and the brace of a header is free, as long as it has no
braces and no loop keyword as a word of its own, and no semicolon in a header.
-/

namespace ZigAdvisor

open Text

/-- Free text on a line: no line break, no brace, no loop keyword as a whole word. -/
structure FreeText where
  text : Text
  oneLine : ∀ c ∈ text, c.isLineBreak = false
  braceless : ('{' : CodePoint) ∉ text ∧ ('}' : CodePoint) ∉ text
  plain : ∀ k ∈ loopKeywords, ¬ HasWord (ofString k) text

structure BlockHead extends FreeText where
  unended : (';' : CodePoint) ∉ text

structure LoopHead extends BlockHead where
  keyword : String
  isKeyword : keyword ∈ loopKeywords

/-- A list of items with the number of spaces in front of their lines. The body of a loop or block
is a program, and so is what follows it. -/
inductive Program
  | done
  | loop (indent : Nat) (head : LoopHead) (body : Program) (foot : Nat) (next : Program)
  | block (indent : Nat) (head : BlockHead) (body : Program) (foot : Nat) (next : Program)
  | statement (indent : Nat) (words : FreeText) (next : Program)

namespace BlockHead

def line (head : BlockHead) : Text := head.text ++ [('{' : CodePoint)]

end BlockHead

namespace LoopHead

def opening (head : LoopHead) : Text := concat [head.keyword, " ("]

def each : LoopHead where
  text := "a) |x| "
  oneLine := by decide
  braceless := by decide
  plain := by
    have hall : ∀ k ∈ loopKeywords, ¬ ofString k <:+: ofString "a) |x| " := by decide
    exact fun k hk h => hall k hk h.isInfix
  unended := by decide
  keyword := "for"
  isKeyword := by decide

def line (head : LoopHead) : Text := head.opening ++ head.toBlockHead.line

end LoopHead

namespace Program

def indented (indent : Nat) (t : Text) : Text := List.replicate indent (' ' : CodePoint) ++ t

def line (indent : Nat) (t : Text) : Text := indented indent t ++ [('\n' : CodePoint)]

def render : Program → Text
  | done => []
  | loop indent head body foot next =>
    line indent head.line ++ (body.render ++ (line foot ['}'] ++ next.render))
  | block indent head body foot next =>
    line indent head.line ++ (body.render ++ (line foot ['}'] ++ next.render))
  | statement indent words next => line indent words.text ++ next.render

def loops : Program → Nat
  | done => 0
  | loop _ _ body _ next => 1 + body.loops + next.loops
  | block _ _ body _ next => body.loops + next.loops
  | statement _ _ next => next.loops

/-- The number of loops that stand inside a loop, where the whole program may stand inside one. -/
def nested (inside : Bool) : Program → Nat
  | done => 0
  | loop _ _ body _ next => inside.toNat + body.nested true + next.nested inside
  | block _ _ body _ next => body.nested inside + next.nested inside
  | statement _ _ next => next.nested inside

/-- The height of the forest of loops. -/
def height : Program → Nat
  | done => 0
  | loop _ _ body _ next => max (body.height + 1) next.height
  | block _ _ body _ next => max body.height next.height
  | statement _ _ next => next.height

def BlockFree : Program → Prop
  | done => True
  | loop _ _ body _ next => body.BlockFree ∧ next.BlockFree
  | block .. => False
  | statement _ _ next => next.BlockFree

end Program

end ZigAdvisor
