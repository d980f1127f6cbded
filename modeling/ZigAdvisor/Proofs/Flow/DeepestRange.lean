import ZigAdvisor.Proofs.Flow.LoopLines

/-!
# The depth of loops as a surplus of openings

A line opens a loop if a brace stands behind its first whole loop keyword, and closes one if it
opens none and has a closing brace. The running depth, which never falls below zero, is the greatest
surplus of opening over closing lines in a range that ends at the present line, and the greatest
depth is the greatest surplus in any range (`isGreatest_maxLoopDepth`). Closing braces too many and
loops that are never closed make no difference: a range may begin and end anywhere, and may be
empty.
-/

namespace ZigAdvisor

open Text

namespace Text

variable {a b line : Text} {k : String}

structure StandsWhole (a : Text) (k : String) (b : Text) : Prop where
  keyword : k ∈ loopKeywords
  front : ¬ AfterWord (lastOr none a)
  behind : ¬ AfterWord b.head?

def Opens (line : Text) : Prop :=
  ∃ a k b, line = a ++ (ofString k ++ b) ∧ StandsWhole a k b ∧
    (∀ a' k' b', line = a' ++ (ofString k' ++ b') → StandsWhole a' k' b' → a.length ≤ a'.length) ∧
    ('{' : CodePoint) ∈ b

/-- Whether a line opens nothing and has a closing brace. -/
def Closes (line : Text) : Prop := ¬ line.Opens ∧ ('}' : CodePoint) ∈ line

/-- Among the whole keywords of a line, one comes first. -/
theorem exists_first_standsWhole (hline : line = a ++ (ofString k ++ b))
    (hwhole : StandsWhole a k b) : ∃ a k b, line = a ++ (ofString k ++ b) ∧ StandsWhole a k b ∧
      ∀ a' k' b', line = a' ++ (ofString k' ++ b') → StandsWhole a' k' b' →
        a.length ≤ a'.length := by
  induction hn : a.length using Nat.strong_induction_on generalizing a k b with
  | _ n ih =>
    by_cases h : ∃ a' k' b', line = a' ++ (ofString k' ++ b') ∧ StandsWhole a' k' b' ∧
        a'.length < a.length
    · obtain ⟨a', k', b', hline', hwhole', hlt⟩ := h
      exact ih a'.length (hn ▸ hlt) hline' hwhole' rfl
    · refine ⟨a, k, b, hline, hwhole, fun a' k' b' hline' hwhole' => ?_⟩
      by_contra hlt
      exact h ⟨a', k', b', hline', hwhole', by omega⟩

/-- What stands behind the first keyword has everything that stands behind a later one. -/
theorem mem_behind_of_le {a' b' : Text} {k' : String} {c : CodePoint}
    (h : a ++ (ofString k ++ b) = a' ++ (ofString k' ++ b')) (hle : a.length ≤ a'.length)
    (hk : c ∉ ofString k) (hc : c ∈ b') : c ∈ b := by
  obtain ⟨s, -, hs⟩ | ⟨s, hs, hrest⟩ := List.append_eq_append_iff.mp h
  · have hmem : c ∈ ofString k ++ b := by
      rw [hs]
      simp [hc]
    exact (List.mem_append.mp hmem).resolve_left hk
  · have hnil : s = [] := by
      have hlen := congrArg List.length hs
      rw [List.length_append] at hlen
      exact List.length_eq_zero_iff.mp (by omega)
    rw [hnil, List.nil_append] at hrest
    have hmem : c ∈ ofString k ++ b := by
      rw [← hrest]
      simp [hc]
    exact (List.mem_append.mp hmem).resolve_left hk

theorem opensLoop_iff_opens : line.opensLoop = true ↔ line.Opens := by
  have hletters : ∀ k ∈ loopKeywords, ('{' : CodePoint) ∉ ofString k := by decide
  rw [opensLoop_iff]
  constructor
  · rintro ⟨a, k, b, hline, hk, hfront, hbehind, hbrace⟩
    obtain ⟨a', k', b', hline', hwhole', hfirst⟩ :=
      exists_first_standsWhole hline ⟨hk, hfront, hbehind⟩
    refine ⟨a', k', b', hline', hwhole', hfirst, ?_⟩
    exact mem_behind_of_le (hline'.symm.trans hline)
      (hfirst a k b hline ⟨hk, hfront, hbehind⟩) (hletters k' hwhole'.keyword) hbrace
  · rintro ⟨a, k, b, hline, hwhole, -, hbrace⟩
    exact ⟨a, k, b, hline, hwhole.keyword, hwhole.front, hwhole.behind, hbrace⟩

theorem closesBlock_iff : line.closesBlock = true ↔ ('}' : CodePoint) ∈ line := by
  simp [closesBlock]

instance : DecidablePred Opens := fun line =>
  decidable_of_iff (line.opensLoop = true) opensLoop_iff_opens

instance : DecidablePred Closes := fun line =>
  inferInstanceAs (Decidable (¬ line.Opens ∧ ('}' : CodePoint) ∈ line))

/-- By how many the lines that open a loop outnumber those that close one. -/
def surplus (lines : List Text) : ℤ :=
  lines.countP (fun line => line.Opens) - lines.countP (fun line => line.Closes)

@[simp] theorem surplus_nil : surplus [] = 0 := rfl

theorem surplus_append (ls more : List Text) :
    surplus (ls ++ more) = surplus ls + surplus more := by
  simp only [surplus, List.countP_append, Nat.cast_add]
  ring

theorem surplus_of_opens (h : line.Opens) : surplus [line] = 1 := by
  have hcloses : ¬ line.Closes := fun hcloses => hcloses.1 h
  simp [surplus, h, hcloses]

theorem surplus_of_closes (h : line.Closes) : surplus [line] = -1 := by
  simp [surplus, h, h.1]

theorem surplus_of_neither (hopens : ¬ line.Opens) (hcloses : ¬ line.Closes) :
    surplus [line] = 0 := by
  simp [surplus, hopens, hcloses]

end Text

namespace LoopDepth

variable {d : LoopDepth} {line : Text} {lines : List Text}

/-- A step adds the surplus of the line, and never leads below zero. -/
theorem current_step : ((d.step line).current : ℤ) = max 0 (d.current + surplus [line]) := by
  by_cases hopens : line.Opens
  · rw [step, if_pos (opensLoop_iff_opens.mpr hopens), surplus_of_opens hopens]
    change ((d.current + 1 : ℕ) : ℤ) = _
    omega
  · rw [step, if_neg (fun h => hopens (opensLoop_iff_opens.mp h))]
    by_cases hcloses : line.Closes
    · rw [if_pos (closesBlock_iff.mpr hcloses.2), surplus_of_closes hcloses]
      change ((d.current - 1 : ℕ) : ℤ) = _
      omega
    · rw [if_neg (fun h => hcloses ⟨hopens, closesBlock_iff.mp h⟩),
        surplus_of_neither hopens hcloses]
      omega

/-- The greatest depth takes in the depth at each line. -/
theorem deepest_step_eq_max (h : d.current ≤ d.deepest) :
    (d.step line).deepest = max d.deepest (d.step line).current := by
  rw [step]
  split_ifs
  · rfl
  · exact (max_eq_left ((Nat.sub_le _ 1).trans h)).symm
  · exact (max_eq_left h).symm

/-- What the state says of the lines so far: the depth is the greatest surplus of a range that ends
here, the greatest depth that of any range. -/
structure Measures (lines : List Text) (d : LoopDepth) : Prop where
  current : IsGreatest (surplus '' {range | range <:+ lines}) d.current
  deepest : IsGreatest (surplus '' {range | range <:+: lines}) d.deepest

theorem Measures.current_le (h : Measures lines d) : d.current ≤ d.deepest := by
  obtain ⟨range, hrange, hsurplus⟩ := h.current.1
  have hle : (d.current : ℤ) ≤ d.deepest := h.deepest.2 ⟨range, hrange.isInfix, hsurplus⟩
  omega

/-- A range that ends at the new line is empty or one that ended at the line before, with the new
line behind it. -/
theorem Measures.current_concat (h : Measures lines d) (line : Text) :
    IsGreatest (surplus '' {range | range <:+ lines ++ [line]}) (d.step line).current := by
  rw [current_step]
  constructor
  · rcases max_choice 0 (d.current + surplus [line]) with hmax | hmax
    · exact ⟨[], List.nil_suffix, by rw [hmax, surplus_nil]⟩
    · obtain ⟨range, ⟨front, rfl⟩, hsurplus⟩ := h.current.1
      refine ⟨range ++ [line], ⟨front, (List.append_assoc _ _ _).symm⟩, ?_⟩
      rw [hmax, surplus_append, hsurplus]
  · rintro _ ⟨range, hrange, rfl⟩
    rcases List.suffix_concat_iff.mp hrange with rfl | ⟨range, rfl, hbefore⟩
    · exact le_max_left _ _
    · have hle : surplus range ≤ d.current := h.current.2 ⟨range, hbefore, rfl⟩
      rw [surplus_append]
      apply le_max_of_le_right
      omega

/-- A range either ends at the new line or is a range of the lines before. -/
theorem Measures.step (h : Measures lines d) (line : Text) :
    Measures (lines ++ [line]) (d.step line) where
  current := h.current_concat line
  deepest := by
    have hcurrent := h.current_concat line
    have hranges : {range | range <:+: lines ++ [line]} =
        {range | range <:+: lines} ∪ {range | range <:+ lines ++ [line]} := by
      ext range
      exact List.infix_concat_iff.trans or_comm
    rw [deepest_step_eq_max h.current_le, Nat.cast_max, hranges, Set.image_union]
    exact h.deepest.union hcurrent

/-- The depths after some lines measure these lines. -/
theorem measures_run (lines : List Text) : Measures lines (run lines) := by
  induction lines using List.reverseRecOn with
  | nil =>
    have hending : surplus '' {range | range <:+ []} = {0} := by simp
    have hany : surplus '' {range | range <:+: []} = {0} := by simp
    exact ⟨by rw [hending]; exact isGreatest_singleton, by rw [hany]; exact isGreatest_singleton⟩
  | append_singleton lines line ih =>
    rw [run, List.foldl_concat]
    exact ih.step line

end LoopDepth

/-- The greatest depth of loops is the greatest surplus of opening over closing lines in a range of
lines. -/
theorem isGreatest_maxLoopDepth (code : Text) :
    IsGreatest (surplus '' {range | range <:+: code.lines}) (maxLoopDepth code) :=
  (LoopDepth.measures_run code.lines).deepest

end ZigAdvisor
