import ZigAdvisor.Pattern.Search

/-!
# Metrics

A metric is a named pattern; what it measures in a text is the number of its matches. Tables of
metrics are measured together. Nothing is known about the text: a pattern that does not occur
counts zero.
-/

namespace ZigAdvisor

abbrev Metrics := List (String × Nat)

namespace Metrics

def get (m : Metrics) (name : String) : Nat := (m.lookup name).getD 0

def has (m : Metrics) (name : String) : Bool := 0 < m.get name

def lacks (m : Metrics) (name : String) : Bool := m.get name == 0

theorem get_append (m n : Metrics) (name : String) :
    (m ++ n).get name = ((m.lookup name).or (n.lookup name)).getD 0 := by
  rw [get, List.lookup_append]

/-- A figure is the first one of its name. -/
theorem get_append_of_lookup {m : Metrics} {name : String} {k : Nat}
    (h : m.lookup name = some k) (n : Metrics) : (m ++ n).get name = k := by
  rw [get_append, h, Option.some_or, Option.getD_some]

theorem has_iff {m : Metrics} {name : String} : m.has name = true ↔ 0 < m.get name :=
  decide_eq_true_iff

end Metrics

structure Metric where
  name : String
  pattern : Pattern

namespace Metric

def measure (table : List Metric) (t : Text) : Metrics :=
  table.map fun m => (m.name, m.pattern.count t)

/-- A name that is not in a table has no figure there. -/
theorem lookup_measure {table : List Metric} {name : String}
    (h : name ∉ table.map Metric.name) (t : Text) : (measure table t).lookup name = none := by
  induction table with
  | nil => rfl
  | cons m table ih =>
    rw [List.map_cons, List.mem_cons, not_or] at h
    rw [measure, List.map_cons, List.lookup_cons, beq_false_of_ne h.1]
    exact ih h.2

end Metric

end ZigAdvisor
