import ZigAdvisor.Domain.DirectionTable
import ZigAdvisor.Domain.LabelTable
import ZigAdvisor.Text.MarkTable
import ZigAdvisor.Text.Quoted

/-!
# Direction of labels

A label with letters written from right to left is shown in an order that its other code points may
upset. Its first code point tells the direction, which no letter may be against, and it ends in a
letter or a digit, marks aside.
-/

namespace ZigAdvisor.Domain

inductive Direction
  | leftToRight
  | rightToLeft
  | arabicNumber
  | europeanNumber
  | neutral
  /-- A mark goes the way of the letter that it stands on. -/
  | mark
deriving DecidableEq

/-- Why a label is in no order; positions count from one. -/
inductive DirectionFault
  | unknown (label : Text) (position : Nat)
  | badStart (label : Text)
  | againstRightToLeft (position : Nat)
  | againstLeftToRight (position : Nat)
  | mixedNumbers
  | badEnd

def DirectionFault.message : DirectionFault → Text
  | unknown label position =>
    .concat ["Unknown directionality in label ", label.quoted, " at position ", .ofNat position]
  | badStart label =>
    .concat ["First codepoint in label ", label.quoted, " must be directionality L, R or AL"]
  | againstRightToLeft position =>
    .concat ["Invalid direction for codepoint at position ", .ofNat position,
      " in a right-to-left label"]
  | againstLeftToRight position =>
    .concat ["Invalid direction for codepoint at position ", .ofNat position,
      " in a left-to-right label"]
  | mixedNumbers => "Can not mix numeral types in a right-to-left label"
  | badEnd => "Label ends with illegal codepoint directionality"

namespace Direction

def of? (c : CodePoint) : Option Direction :=
  if lateTable.contains c.val then none
  else if rightToLeftTable.contains c.val then some .rightToLeft
  else if arabicNumberTable.contains c.val then some .arabicNumber
  else if europeanNumberTable.contains c.val then some .europeanNumber
  else if neutralTable.contains c.val then some .neutral
  else if Text.nonspacingMarkTable.contains c.val then some .mark
  else some .leftToRight

def isNumber (d : Direction) : Bool := d = arabicNumber || d = europeanNumber

def turns (d : Direction) : Bool := d = rightToLeft || d = arabicNumber

/-- Looks for what is against the direction from right to left. The digits are all of one kind,
`number` if there have been some. -/
def followRightToLeft (number : Option Direction) (position : Nat) :
    List Direction → Except DirectionFault Unit
  | [] => .ok ()
  | d :: rest =>
    if d = leftToRight then .error (.againstRightToLeft position)
    else if d.isNumber then
      if number.all (· = d) then followRightToLeft (some d) (position + 1) rest
      else .error .mixedNumbers
    else followRightToLeft number (position + 1) rest

def followLeftToRight (ds : List Direction) : Except DirectionFault Unit :=
  match ds.findIdx? turns with
  | some index => .error (.againstLeftToRight (index + 1))
  | none => .ok ()

def checkEnd (allowed : Direction → Bool) (ds : List Direction) : Except DirectionFault Unit :=
  if (ds.reverse.find? (· ≠ mark)).any allowed then .ok () else .error .badEnd

def check (label : Text) : Except DirectionFault Unit :=
  match label.findIdx? fun c => (of? c).isNone with
  | some index => .error (.unknown label (index + 1))
  | none =>
    let ds := label.filterMap of?
    if !ds.any turns then .ok ()
    else match ds.head? with
      | some rightToLeft => do
        followRightToLeft none 1 ds
        checkEnd (fun d => d = rightToLeft || d.isNumber) ds
      | some leftToRight => do
        followLeftToRight ds
        checkEnd (fun d => d = leftToRight || d = europeanNumber) ds
      | _ => .error (.badStart label)

end Direction

end ZigAdvisor.Domain
