import ZigAdvisor.Text.Basic
import ZigAdvisor.Text.CompositionTable
import ZigAdvisor.Text.MarkTable

/-!
# Composed text

A letter with marks can be written in several ways. The composed one takes every code point apart,
sorts the marks on a letter by their class, and joins again what has a code point of its own. Marks
of one class keep their order, since the order is seen.
-/

namespace ZigAdvisor

namespace CodePoint

def combiningClass (c : CodePoint) : Nat :=
  ((Text.combiningClasses.find? fun row => row.2.contains c.val).map (·.1)).getD 0

def isMark (c : CodePoint) : Bool :=
  Text.nonspacingMarkTable.contains c.val || Text.spacingMarkTable.contains c.val

end CodePoint

/-! ## Syllables of Hangul -/

namespace Hangul

def firstSyllable : Nat := 0xAC00

def firstLead : Nat := 0x1100

def firstVowel : Nat := 0x1161

def beforeTrails : Nat := 0x11A7

def leads : Nat := 19

def vowels : Nat := 21

/-- How many trailing consonants there are, having none counted in. -/
def trails : Nat := 28

def index? (first count : Nat) (c : CodePoint) : Option Nat :=
  if first ≤ c.val ∧ c.val < first + count then some (c.val - first) else none

def letters? (c : CodePoint) : Option Text :=
  (index? firstSyllable (leads * vowels * trails) c).map fun n =>
    let lead := CodePoint.ofNat (firstLead + n / (vowels * trails))
    let vowel := CodePoint.ofNat (firstVowel + n / trails % vowels)
    let trail := n % trails
    if trail = 0 then [lead, vowel] else [lead, vowel, .ofNat (beforeTrails + trail)]

def syllable? (c d : CodePoint) : Option CodePoint :=
  match index? firstLead leads c, index? firstVowel vowels d with
  | some lead, some vowel => some (.ofNat (firstSyllable + (lead * vowels + vowel) * trails))
  | _, _ =>
    match index? firstSyllable (leads * vowels * trails) c,
        index? (beforeTrails + 1) (trails - 1) d with
    | some n, some trail => if n % trails = 0 then some (.ofNat (c.val + trail + 1)) else none
    | _, _ => none

end Hangul

namespace Text

/-! ## Taking apart -/

def pair? (c : CodePoint) : Option Text :=
  compositions.findSome? fun (second, row) =>
    (row.find? fun entry => entry.2 == c.val).map fun entry => [.ofNat entry.1, .ofNat second]

def takenApart (c : CodePoint) : Text := ((Hangul.letters? c).or (pair? c)).getD [c]

def maxDepth : Nat := 3

def decomposed (t : Text) : Text := Nat.repeat (List.flatMap takenApart) maxDepth t

/-! ## Sorting of marks -/

/-- A code point in front of a sorted text: a mark moves behind the marks of lower classes. -/
def insertMark (c : CodePoint) : Text → Text
  | [] => [c]
  | d :: rest =>
    if d.combiningClass ≠ 0 ∧ d.combiningClass < c.combiningClass then d :: insertMark c rest
    else c :: d :: rest

def withSortedMarks (t : Text) : Text := t.foldr insertMark []

/-! ## Joining -/

def composite? (c d : CodePoint) : Option CodePoint :=
  (Hangul.syllable? c d).or
    (((compositions.lookup d.val).bind (·.lookup c.val)).map CodePoint.ofNat)

/-- A letter, with the marks on it that cannot be joined to it, and what follows. A mark is joined
to the letter if no mark of the same or a higher class stands between them. -/
def joinedFrom (letter : CodePoint) (marks : Text) : Text → Text
  | [] => letter :: marks
  | c :: rest =>
    let blocked := marks.getLast?.any fun m => c.combiningClass ≤ m.combiningClass
    match if blocked then none else composite? letter c with
    | some whole => joinedFrom whole marks rest
    | none =>
      if c.combiningClass = 0 then letter :: (marks ++ joinedFrom c [] rest)
      else joinedFrom letter (marks ++ [c]) rest

def joined : Text → Text
  | [] => []
  | c :: rest => if c.combiningClass = 0 then joinedFrom c [] rest else c :: joined rest

def isComposed (t : Text) : Bool :=
  !t.any (fun c => neverComposedTable.contains c.val) &&
    joined (withSortedMarks (decomposed t)) == t

end Text

end ZigAdvisor
