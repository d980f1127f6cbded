import ZigAdvisor.Number.Double
import ZigAdvisor.Text.Ascii
import ZigAdvisor.Text.Classes

/-!
# Reading numbers

A setting holds a number with an optional sign, point and exponent, or the word for infinity or for
what is no number in any case. Digits may be of any script, low lines may stand between digits, and
blanks around the number are ignored.
-/

namespace ZigAdvisor

namespace Text

def digitsValue (digits : Text) : Nat := digits.foldl (fun n c => n * 10 + (c.val - 0x30)) 0

def splitDigits (t : Text) : Text × Text := t.span CodePoint.isAsciiDigit

def splitSign : Text → Bool × Text
  | [] => (false, [])
  | c :: rest =>
    if c = '-' then (true, rest) else if c = '+' then (false, rest) else (false, c :: rest)

def isAsciiBlank (c : CodePoint) : Bool := c.val == 0x20 || (0x9 ≤ c.val && c.val ≤ 0xD)

/-- Blanks and digits of any script by those of ASCII; nothing if anything else is not ASCII. A
text in ASCII is left alone. -/
def toAscii? (t : Text) : Option Text :=
  if t.isAscii then some t
  else t.mapM fun c =>
    if c.val < 0x7F then some c
    else if c.isBlank then some ' '
    else c.decimalValue?.map fun d => .ofNat (0x30 + d)

/-- The text without low lines, if each of them stands between two digits; `previous` is what
stands before. -/
def withoutLowLines? (previous : Option CodePoint) : Text → Option Text
  | [] => some []
  | c :: rest =>
    if c = '_' then
      let follows := match rest with
        | [] => false
        | d :: _ => d.isAsciiDigit
      if (previous.any CodePoint.isAsciiDigit) && follows then withoutLowLines? (some c) rest
      else none
    else (withoutLowLines? (some c) rest).map (c :: ·)

def plainNumber? (t : Text) : Option Text := do
  let ascii ← toAscii? t
  let trimmed := ((ascii.dropWhile isAsciiBlank).reverse.dropWhile isAsciiBlank).reverse
  withoutLowLines? none trimmed

def signedValue? (t : Text) : Option Int :=
  let (negative, digits) := splitSign t
  if digits.isEmpty || !digits.all CodePoint.isAsciiDigit then none
  else some (if negative then -(digitsValue digits : Int) else digitsValue digits)

def maxDigits : Nat := 4300

def toInt? (t : Text) : Option Int := do
  let plain ← plainNumber? t
  if maxDigits < (splitSign plain).2.length then none else signedValue? plain

end Text

namespace Double

def readPower? : Text → Option Int
  | [] => some 0
  | c :: rest => if c.lowerAscii = 'e' then Text.signedValue? rest else none

def readMagnitude? (negative : Bool) (t : Text) : Option Double :=
  let word := t.map CodePoint.lowerAscii
  if word = ("inf" : Text) ∨ word = ("infinity" : Text) then some (infinity negative)
  else if word = ("nan" : Text) then some nan
  else
    let (whole, rest) := Text.splitDigits t
    let (fraction, rest) := match rest with
      | [] => ([], [])
      | c :: after => if c = '.' then Text.splitDigits after else ([], rest)
    if whole.isEmpty && fraction.isEmpty then none
    else (readPower? rest).map fun power =>
      ofDecimal negative (Text.digitsValue (whole ++ fraction)) (power - fraction.length)

def read? (t : Text) : Option Double := do
  let (negative, magnitude) := Text.splitSign (← Text.plainNumber? t)
  readMagnitude? negative magnitude

end Double

end ZigAdvisor
