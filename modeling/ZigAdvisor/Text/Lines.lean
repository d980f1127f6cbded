import ZigAdvisor.Text.Basic

/-!
# Lines

Two ways to cut a text: at line feeds only, as a stream of messages is cut, and at every line
boundary, as the lines of a source file are counted.
-/

namespace ZigAdvisor

/-- Line feed, carriage return, vertical tab, form feed, the information separators, next line,
and the separators of lines and paragraphs. -/
def CodePoint.isLineBreak (c : CodePoint) : Bool :=
  (0xA ≤ c.val && c.val ≤ 0xD) || (0x1C ≤ c.val && c.val ≤ 0x1E) || c.val == 0x85 ||
    c.val == 0x2028 || c.val == 0x2029

namespace Text

/-- The lines of a text. A carriage return and the line feed after it are one boundary, and a
boundary at the very end opens no further line. -/
def lines : Text → List Text
  | [] => []
  | c :: rest =>
    if c = '\r' ∧ rest.head? = some ('\n' : CodePoint) then lines rest
    else if c.isLineBreak then [] :: lines rest
    else match lines rest with
      | [] => [[c]]
      | line :: others => (c :: line) :: others

/-- The pieces between the marks, the last one included even if it is empty. -/
def pieces (mark : CodePoint) : Text → List Text
  | [] => [[]]
  | c :: rest =>
    if c = mark then [] :: pieces mark rest
    else match pieces mark rest with
      | [] => [[c]]
      | piece :: others => (c :: piece) :: others

def splitAtNewlines (t : Text) : List Text := pieces '\n' t

/-- The lines of a stream: the pieces between line feeds, without an empty last one. -/
def streamLines (t : Text) : List Text :=
  let pieces := splitAtNewlines t
  if pieces.getLast? = some [] then pieces.dropLast else pieces

/-- A file's text with each carriage return, alone or before a line feed, read as a line feed. -/
def withNewlines : Text → Text
  | [] => []
  | c :: rest =>
    if c = '\r' then
      if rest.head? = some ('\n' : CodePoint) then withNewlines rest
      else ('\n' : CodePoint) :: withNewlines rest
    else c :: withNewlines rest

end Text

end ZigAdvisor
