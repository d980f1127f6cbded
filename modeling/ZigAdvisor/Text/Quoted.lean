import ZigAdvisor.Text.Ascii
import ZigAdvisor.Text.Classes

/-!
# Quoted text

How a text is shown inside a message: between single quotes, or between double quotes when it
holds a single quote and no double one, with everything unprintable escaped.
-/

namespace ZigAdvisor.Text

def quoteMark (t : Text) : CodePoint :=
  if t.contains [.apostrophe] && !t.contains [.quote] then .quote else .apostrophe

def quotedPoint (mark c : CodePoint) : Text :=
  if c = mark ∨ c = .backslash then [.backslash, c]
  else if c = '\t' then "\\t"
  else if c = '\n' then "\\n"
  else if c = '\r' then "\\r"
  else if c.isPrintable then [c]
  else escapedPoint c

def quoted (t : Text) : Text :=
  let mark := t.quoteMark
  mark :: (t.flatMap (quotedPoint mark) ++ [mark])

end ZigAdvisor.Text
