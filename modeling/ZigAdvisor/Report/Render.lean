import ZigAdvisor.Report.Basic
import ZigAdvisor.Text.Classes

/-!
# Rendering of reports

A report is written bucket by bucket, each under its heading, with blank lines between. A report
without findings says so, and no report is written as an empty text.
-/

namespace ZigAdvisor

namespace Text

def bulletList (items : List Text) : Text :=
  join "\n" (items.map fun item => concat ["- ", item])

def sections (parts : List (Text × Text)) : Text :=
  trim (join "\n\n" (parts.map fun (title, body) => concat [title, ":\n", body]))

end Text

namespace Report

def noIssues : Text := "No issues found"

def renderBucket (bucket : Severity × List Text) : Text :=
  .concat [bucket.1.heading, "\n", Text.bulletList bucket.2, "\n"]

/-- The report as text; `allClear` is what a report without findings says. -/
def render (r : Report) (allClear : Text) : Text :=
  let found := Text.trim (Text.join "\n" (r.buckets.map renderBucket))
  let text := if r.summary.isEmpty then found else Text.trim (.concat [found, "\n\n", r.summary])
  if text.isEmpty then Text.bulletList [allClear] else text

end Report

end ZigAdvisor
