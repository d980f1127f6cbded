import Mathlib.Tactic
import ZigAdvisor.Flow.Complexity
import ZigAdvisor.Pattern.Metric
import ZigAdvisor.Proofs.Flow.Growth

/-!
# Figures of running time

The loops of a text are the headers that a search finds. The class depends on three figures alone,
so it is the same wherever they stand among other figures. In the order of the classes, greater
figures never give a better one.
-/

namespace ZigAdvisor.Complexity

theorem spans_countedLoop {before : Option CodePoint} {m rest : Text} :
    countedLoop.Spans before m rest ↔ Pattern.anyLoop.Spans before m rest := by
  have hcounted : Text.AreWords ["while", "for"] := by decide
  have hscanned : Text.AreWords ["for", "while"] := areWords_loop
  rw [countedLoop, Pattern.anyLoop, Pattern.spans_loopHeader hcounted,
    Pattern.spans_loopHeader hscanned]
  have hswap (k : String) : k ∈ ["while", "for"] ↔ k ∈ ["for", "while"] :=
    (List.Perm.swap "for" "while" []).mem_iff
  simp only [IsHeader, hswap]

/-- The loops that are counted are those that the scan for nested loops finds. -/
theorem count_countedLoop (t : Text) : countedLoop.count t = Pattern.anyLoop.count t :=
  Pattern.count_eq_of_spans rfl rfl (Pattern.endsAt_loopHeader areWords_loop).endsTogether
    (fun _ _ _ => spans_countedLoop) t

theorem get_loops (code : Text) : (measure code).get "loops" = Pattern.anyLoop.count code := by
  rw [← count_countedLoop, measure, Metrics.get_append]
  rfl

theorem get_nested_loops (code : Text) :
    (measure code).get "nested_loops" = nestedLoops .anyLoop code := by
  rw [measure, Metrics.get_append, Metric.lookup_measure (by decide)]
  rfl

theorem estimate_eq_quadratic {m : Metrics} :
    estimate m = quadratic ↔ m.has "nested_loops" = true := by
  rw [estimate]
  split_ifs <;> simp_all

def deciding : List String := ["nested_loops", "loops", "recursion"]

theorem get_recursion (code : Text) :
    (measure code).get "recursion" = recursiveFunctions code := by
  rw [measure, Metrics.get_append, Metric.lookup_measure (by decide)]
  rfl

theorem get_append {before after : Metrics} {name : String} (hname : name ∈ deciding)
    (h : before.lookup name = none) :
    (before ++ measure code ++ after).get name = (measure code).get name := by
  have hsome : ((measure code).lookup name).isSome := by
    fin_cases hname
    all_goals
      rw [measure, List.lookup_append]
      simp [Metric.measure, metrics, List.lookup_cons]
  obtain ⟨n, hn⟩ := Option.isSome_iff_exists.mp hsome
  simp only [Metrics.get, List.lookup_append, h, hn, Option.none_or, Option.some_or]

/-- The deciding figures give the same class wherever they stand among other figures. -/
theorem estimate_append (before after : Metrics)
    (h : ∀ name ∈ deciding, before.lookup name = none) :
    estimate (before ++ measure code ++ after) = estimate (measure code) := by
  have hget : ∀ name ∈ deciding,
      (before ++ measure code ++ after).has name = (measure code).has name := fun name hname => by
    rw [Metrics.has, get_append hname (h name hname), Metrics.has]
  simp only [estimate, hget _ (by decide : "nested_loops" ∈ _), hget _ (by decide : "loops" ∈ _),
    hget _ (by decide : "recursion" ∈ _)]

def rank : Complexity → Nat
  | constant => 0
  | recursive => 1
  | linear => 2
  | quadratic => 3

theorem rank_injective : Function.Injective rank := by
  intro c d
  cases c <;> cases d <;> simp [rank]

instance : LinearOrder Complexity := LinearOrder.lift' rank rank_injective

theorem le_iff_rank {c d : Complexity} : c ≤ d ↔ c.rank ≤ d.rank := Iff.rfl

/-- Greater figures never give a better class. -/
theorem estimate_mono {m m' : Metrics} (h : ∀ name ∈ deciding, m.get name ≤ m'.get name) :
    estimate m ≤ estimate m' := by
  have hhas (name : String) (hname : name ∈ deciding) (hm : m.has name = true) :
      m'.has name = true :=
    Metrics.has_iff.mpr ((Metrics.has_iff.mp hm).trans_le (h name hname))
  have hnested := hhas "nested_loops" (by decide)
  have hloops := hhas "loops" (by decide)
  have hrecursion := hhas "recursion" (by decide)
  rw [le_iff_rank, estimate, estimate]
  split_ifs <;> simp_all [rank]

end ZigAdvisor.Complexity
