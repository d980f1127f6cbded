import ZigAdvisor.Text.Basic
import ZigAdvisor.Text.CaseTable

/-!
# Lower and upper case

Full case mappings: an image may be longer than one code point, and a capital sigma becomes a
final sigma at the end of a word. What counts as the end of a word looks through the code points
that case ignores.
-/

namespace ZigAdvisor

namespace Text

def mapCase (runs : List CaseRun) (expansions : List (Nat × List Nat)) (n : Nat) : List Nat :=
  match runs.find? (fun r => r.first ≤ n && n ≤ r.last && (n - r.first) % r.step == 0) with
  | some r => [(n + r.shift).toNat]
  | none => (expansions.lookup n).getD [n]

end Text

namespace CodePoint

def isCaseIgnorable (c : CodePoint) : Bool := Text.caseIgnorableTable.contains c.val

def isCased (c : CodePoint) : Bool := Text.casedTable.contains c.val

def toLower (c : CodePoint) : Text :=
  (Text.mapCase Text.lowerRuns Text.lowerExpansions c.val).map ofNat

def toUpper (c : CodePoint) : Text :=
  (Text.mapCase Text.upperRuns Text.upperExpansions c.val).map ofNat

end CodePoint

namespace Text

def meetsCased (t : Text) : Bool :=
  (t.dropWhile CodePoint.isCaseIgnorable).head?.any CodePoint.isCased

/-- Lower case of the part after `before`, which is given backwards. -/
def lowerAfter (before : Text) : Text → Text
  | [] => []
  | c :: rest =>
    let image : Text :=
      if c.val = 0x3A3 then
        [.ofNat (if meetsCased before && !meetsCased rest then 0x3C2 else 0x3C3)]
      else c.toLower
    image ++ lowerAfter (c :: before) rest

def lower (t : Text) : Text := lowerAfter [] t

def upper (t : Text) : Text := t.flatMap CodePoint.toUpper

end Text

end ZigAdvisor
