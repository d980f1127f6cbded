import ZigAdvisor.Pattern.Basic

/-!
# Searching for a pattern

Matches are taken from left to right and do not overlap: after a match the search goes on at its
end, and where nothing matches it goes on one code point further.
-/

namespace ZigAdvisor.Pattern

/-- The places where the matches in a text start. The first `skip` code points belong to the match
before; each match is taken to consume at least one code point. -/
def startsFrom (p : Pattern) : (skip offset : Nat) → Option CodePoint → Text → List Cursor
  | _, _, _, [] => []
  | skip + 1, offset, _, y :: rest => startsFrom p skip (offset + 1) (some y) rest
  | 0, offset, before, y :: rest =>
    match p.end? ⟨offset, before, y :: rest⟩ with
    | some e =>
      ⟨offset, before, y :: rest⟩ :: startsFrom p (e.offset - offset - 1) (offset + 1) (some y) rest
    | none => startsFrom p 0 (offset + 1) (some y) rest

def starts (p : Pattern) (t : Text) : List Cursor := startsFrom p 0 0 none t

def count (p : Pattern) (t : Text) : Nat := (p.starts t).length

/-- The end of the first match at or after a place. -/
def findFrom (p : Pattern) : (offset : Nat) → Option CodePoint → Text → Option Cursor
  | offset, before, [] => p.end? ⟨offset, before, []⟩
  | offset, before, y :: rest =>
    match p.end? ⟨offset, before, y :: rest⟩ with
    | some e => some e
    | none => findFrom p (offset + 1) (some y) rest

def find? (p : Pattern) (t : Text) : Option Cursor := findFrom p 0 none t

def occursIn (p : Pattern) (t : Text) : Bool := (p.find? t).isSome

end ZigAdvisor.Pattern
