import ZigAdvisor.Domain.Label
import ZigAdvisor.Text.Lines

/-!
# Domain names

A name is a row of labels with full stops between them, in lower case. It may end in a full stop,
which tells that it is complete.
-/

namespace ZigAdvisor.Domain.Name

def isFullStop (c : CodePoint) : Bool := [0x2E, 0x3002, 0xFF0E, 0xFF61].contains c.val

/-- The labels of a name, and whether it ends in a full stop. -/
def labels (t : Text) : List Text × Bool :=
  let parts := Text.pieces '.' (t.map fun c => if isFullStop c then '.' else c)
  if parts.length ≠ 1 ∧ parts.getLast? = some [] then (parts.dropLast, true) else (parts, false)

/-- The longest name; a full stop at its end does not count. -/
def maxLength : Nat := 253

def mapLabels (form : Text → Except Fault Text) (t : Text) : Except Fault Text := do
  if maxLength + 1 < t.length then throw .longName
  let (labels, complete) := labels t
  let name := Text.join "." (← labels.mapM form)
  return if complete then name ++ "." else name

def decode (t : Text) : Except Fault Text := mapLabels Label.decode t

def toAscii (t : Text) : Except Fault Text := do
  let name ← mapLabels Label.toAscii t
  if (if (labels t).2 then maxLength + 1 else maxLength) < name.length then throw .longName
  return name

end ZigAdvisor.Domain.Name
