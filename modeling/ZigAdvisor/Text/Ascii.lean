import ZigAdvisor.Text.Basic

/-!
# Text in ASCII

Where a text has to be in ASCII, what is said of one that is not names the first row of code points
at fault and where it stands.
-/

namespace ZigAdvisor

def CodePoint.isAscii (c : CodePoint) : Bool := c.val < 0x80

namespace Text

def isAscii (t : Text) : Bool := t.all CodePoint.isAscii

/-- A code point by its number, which has two, four or eight digits. -/
def escapedPoint (c : CodePoint) : Text :=
  if c.val < 0x100 then "\\x" ++ hex 2 c.val
  else if c.val < 0x10000 then "\\u" ++ hex 4 c.val
  else "\\U" ++ hex 8 c.val

def asciiFault? (t : Text) : Option Text :=
  match t.span CodePoint.isAscii with
  | (_, []) => none
  | (before, c :: rest) =>
    let more := (rest.takeWhile (!·.isAscii)).length
    let what : Text :=
      if more = 0 then .concat [" '", escapedPoint c, "' in position ", .ofNat before.length]
      else .concat ["s in position ", .ofNat before.length, "-", .ofNat (before.length + more)]
    some (.concat ["'ascii' codec can't encode character", what, ": ordinal not in range(128)"])

end Text

end ZigAdvisor
