import ZigAdvisor.Pattern.Metric
import ZigAdvisor.Report.Render

/-!
# Sections of an estimate

An estimate is a list of figures, followed by notes under a heading if there are any.
-/

namespace ZigAdvisor

structure Note where
  holds : Metrics → Bool
  text : String

namespace Note

def select (notes : List Note) (m : Metrics) : List Text :=
  (notes.filter (·.holds m)).map fun n => .ofString n.text

end Note

namespace Metrics

def line (m : Metrics) (label name remark : String) : Text :=
  .concat [label, ": ", .ofNat (m.get name), remark]

end Metrics

namespace Text

def withNotes (lines : List Text) (heading : Text) (notes : List Text) : Text :=
  if notes.isEmpty then bulletList lines
  else concat [bulletList lines, "\n\n", heading, ":\n", bulletList notes]

end Text

end ZigAdvisor
