import ZigAdvisor.Domain.Context
import ZigAdvisor.Domain.Direction
import ZigAdvisor.Text.Case
import ZigAdvisor.Text.Punycode

/-!
# Labels

A label is a part of a domain name between two full stops. One in ASCII may stand for another one,
whose Punycode it then holds behind a mark.
-/

namespace ZigAdvisor.Domain

/-- A code point of a label; positions count from one. -/
structure Place where
  label : Text
  position : Nat
  point : CodePoint

def Place.number (p : Place) : Text :=
  let n := p.point.val
  "U+" ++ (Text.hex (if n < 0x10000 then 4 else if n < 0x100000 then 5 else 6) n).upper

inductive Fault
  | longName
  | longLabel
  | emptyLabel
  /-- The label is not in its composed form. -/
  | notComposed
  /-- Hyphens in the third and fourth place are kept for marks. -/
  | innerHyphens
  | outerHyphen
  | leadingMark
  /-- Nothing stands behind the mark of Punycode. -/
  | noPunycode
  | endsInHyphen
  | badPunycode
  | strayJoiner (p : Place)
  | strayPunctuation (p : Place)
  | forbidden (p : Place)
  | direction (fault : DirectionFault)

def Fault.message : Fault → Text
  | longName => "Domain too long"
  | longLabel => "Label too long"
  | emptyLabel => "Empty Label"
  | notComposed => "Label must be in Normalization Form C"
  | innerHyphens => "Label has disallowed hyphens in 3rd and 4th position"
  | outerHyphen => "Label must not start or end with a hyphen"
  | leadingMark => "Label begins with an illegal combining character"
  | noPunycode => "Malformed A-label, no Punycode eligible content found"
  | endsInHyphen => "A-label must not end with a hyphen"
  | badPunycode => "Invalid A-label"
  | strayJoiner p =>
    .concat ["Unknown codepoint adjacent to joiner ", p.number, " at position ",
      .ofNat p.position, " in ", p.label.quoted]
  | strayPunctuation p =>
    .concat ["Codepoint ", p.number, " not allowed at position ", .ofNat p.position, " in ",
      p.label.quoted]
  | forbidden p =>
    .concat ["Codepoint ", p.number, " at position ", .ofNat p.position, " of ",
      p.label.quoted, " not allowed"]
  | direction fault => fault.message

namespace Label

/-! ## What a label may hold -/

/-- Checks a code point between two parts of its label, the first of which is given backwards. -/
def checkPoint (label before : Text) (c : CodePoint) (after : Text) : Except Fault Unit :=
  let place : Place := ⟨label, before.length + 1, c⟩
  if permittedTable.contains c.val then .ok ()
  else if Context.isJoiner c then
    if Context.joinerAllowed c before after then .ok () else .error (.strayJoiner place)
  else if Context.isPunctuation c then
    if Context.punctuationAllowed c before after then .ok () else .error (.strayPunctuation place)
  else .error (.forbidden place)

def checkPoints (label before : Text) : Text → Except Fault Unit
  | [] => .ok ()
  | c :: after => do
    checkPoint label before c after
    checkPoints label (c :: before) after

def check (t : Text) : Except Fault Unit := do
  let hyphen : CodePoint := '-'
  if t.isEmpty then throw .emptyLabel
  if !t.isComposed then throw .notComposed
  if (t.drop 2).take 2 = [hyphen, hyphen] then throw .innerHyphens
  if t.head? = some hyphen ∨ t.getLast? = some hyphen then throw .outerHyphen
  if t.head?.any CodePoint.isMark then throw .leadingMark
  checkPoints t [] t
  (Direction.check t).mapError .direction

/-! ## Labels in ASCII -/

def punycodeMark : Text := "xn--"

def maxLength : Nat := 63

def decode (t : Text) : Except Fault Text := do
  if t.startsWith punycodeMark then
    let written := t.drop punycodeMark.length
    if written.isEmpty then throw .noPunycode
    if written.getLast? = some ('-' : CodePoint) then throw .endsInHyphen
    match Punycode.decode? written with
    | none => throw .badPunycode
    | some label =>
      check label
      return label
  else
    check t
    return t

def toAscii (t : Text) : Except Fault Text := do
  let written ← if t.isAscii then do
      let _ ← decode t
      pure t
    else do
      check t
      pure (punycodeMark ++ Punycode.encode t)
  if maxLength < written.length then throw .longLabel
  return written

end Label

end ZigAdvisor.Domain
