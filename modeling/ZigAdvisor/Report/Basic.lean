import ZigAdvisor.Text.Basic

/-!
# Reports

A report collects findings in the order they were made. It is read through its buckets, one for
each severity that occurs.
-/

namespace ZigAdvisor

inductive Severity
  /-- Likely bugs and unsafe constructs. -/
  | critical
  /-- Questionable code. -/
  | warning
  /-- Improvements and idiomatic alternatives. -/
  | suggestion
  /-- Good practice already present. -/
  | strength
  /-- Neutral observations. -/
  | info
deriving DecidableEq

namespace Severity

def all : List Severity := [critical, warning, suggestion, strength, info]

def bucket : Severity → String
  | critical => "critical"
  | warning => "warnings"
  | suggestion => "suggestions"
  | strength => "strengths"
  | info => "info"

def heading : Severity → String
  | critical => "🚨 Critical"
  | warning => "⚠️ Warnings"
  | suggestion => "💡 Suggestions"
  | strength => "✅ Strengths"
  | info => "ℹ️ Info"

end Severity

structure Finding where
  severity : Severity
  message : Text

/-- Findings under a title, in the order they were made, with optional text after them. -/
structure Report where
  title : Text
  findings : List Finding
  summary : Text

namespace Report

def empty (title : Text) : Report := ⟨title, [], []⟩

def add (r : Report) (severity : Severity) (message : Text) : Report :=
  { r with findings := r.findings ++ [⟨severity, message⟩] }

def isEmpty (r : Report) : Bool := r.findings.isEmpty

def messages (r : Report) : List Text := r.findings.map Finding.message

def messagesOf (r : Report) (severity : Severity) : List Text :=
  (r.findings.filter (·.severity == severity)).map Finding.message

/-- The messages by severity, without the severities that have none. -/
def buckets (r : Report) : List (Severity × List Text) :=
  (Severity.all.map fun s => (s, r.messagesOf s)).filter (!·.2.isEmpty)

end Report

end ZigAdvisor
