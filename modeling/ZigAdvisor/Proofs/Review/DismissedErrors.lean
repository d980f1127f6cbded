import ZigAdvisor.Proofs.Pattern.Counting
import ZigAdvisor.Review.Safety

/-!
# Dismissed errors

The review of safety finds errors that are dismissed, `catch unreachable`, and asks about the word
`unreachable`. A dismissal is found wherever its text stands, the word only where it stands whole,
so the first finding comes without the second where each `unreachable` is part of a longer word
(`dismissals_told`). A dismissal that no word character follows has the whole word.
-/

namespace ZigAdvisor

open Text

namespace Text

variable {m t : Text}

def IsDismissal (m : Text) : Prop := ∃ gap : Text, (gap ≠ [] ∧ ∀ c ∈ gap, c.isBlank = true) ∧
  m = ofString "catch" ++ (gap ++ ofString "unreachable")

def HasDismissal (t : Text) : Prop := ∃ a m b, t = a ++ (m ++ b) ∧ IsDismissal m

/-- No word character stands in front of the last word of a dismissal. -/
theorem IsDismissal.exists_front (h : IsDismissal m) :
    ∃ u, m = u ++ ofString "unreachable" ∧ ∀ before, ¬ AfterWord (lastOr before u) := by
  obtain ⟨gap, ⟨hne, hblank⟩, rfl⟩ := h
  obtain ⟨front, c, rfl⟩ := (List.eq_nil_or_concat' gap).resolve_left hne
  refine ⟨ofString "catch" ++ (front ++ [c]), (List.append_assoc _ _ _).symm, ?_⟩
  intro before
  rw [← List.append_assoc, lastOr_concat]
  exact not_afterWord_some (CodePoint.isWord_eq_false_of_isBlank (hblank c (by simp)))

end Text

namespace Safety

open Pattern

variable {code : Text}

def dismissal : Pattern := .inOrder ["catch", .gap, "unreachable"]

theorem get_catch_unreachable (t : Text) :
    (Metric.measure metrics t).get "catch_unreachable" = dismissal.count t := rfl

theorem get_unreachable (t : Text) :
    (Metric.measure metrics t).get "unreachable" = (word "unreachable").count t := rfl

theorem isName_unreachable : IsName (ofString "unreachable") := by decide

theorem spans_dismissal {before : Option CodePoint} {m rest : Text} :
    dismissal.Spans before m rest ↔ IsDismissal m := by
  constructor
  · rintro ⟨_, _, rfl, rfl, gap, _, rfl, hgap, rfl⟩
    exact ⟨gap, spans_gap.mp hgap, rfl⟩
  · rintro ⟨gap, hgap, rfl⟩
    exact ⟨_, _, rfl, rfl, gap, _, rfl, spans_gap.mpr hgap, rfl⟩

theorem count_dismissal_pos_iff {t : Text} : 0 < dismissal.count t ↔ HasDismissal t := by
  rw [count_pos_iff_of_consumes rfl]
  simp only [spans_dismissal, HasDismissal]

def runsOn (t : Text) (place : ℕ) : Bool := (t.drop place).head?.any CodePoint.isWord

/-- The dismissals that are found end with the whole word or run on. -/
theorem count_dismissal_le (t : Text) :
    dismissal.count t ≤ (word "unreachable").count t + (dismissal.stops t).countP (runsOn t) := by
  have hwhole : (dismissal.stops t).countP (fun place => ¬ runsOn t place = true) ≤
      (word "unreachable").count t := by
    apply countP_stops_le rfl rfl (endsTogether_word isName_unreachable)
    intro a m rest ht hspan hends
    -- A blank stands in front of the word, so what follows decides whether it is whole.
    obtain ⟨u, rfl, hfront⟩ := (spans_dismissal.mp hspan).exists_front
    refine ⟨u, _, rfl, (spans_word isName_unreachable).mpr ⟨rfl, hfront _, ?_⟩⟩
    simpa [runsOn, AfterWord, ht, ← List.append_assoc, ← List.length_append] using hends
  rw [← length_stops, List.length_eq_countP_add_countP (runsOn t), Nat.add_comm]
  exact Nat.add_le_add_right hwhole _

/-! ## Findings -/

def dismissedError : Finding :=
  ⟨.critical, "catch unreachable turns errors into undefined behavior in release builds; " ++
    "handle or propagate the error"⟩

def unreachablePath : Finding :=
  ⟨.suggestion, "Ensure unreachable paths are truly unreachable"⟩

theorem rulesLike_dismissedError : classifier.rulesLike code dismissedError =
    [Rule.onPresence .critical "catch_unreachable" dismissedError.message] := rfl

theorem rulesLike_unreachablePath : classifier.rulesLike code unreachablePath =
    [Rule.onPresence .suggestion "unreachable" unreachablePath.message] := rfl

theorem dismissedError_mem : dismissedError ∈ (classifier.classify code).findings ↔
    0 < (Metric.measure metrics code).get "catch_unreachable" :=
  Classifier.mem_findings_of_presence rfl rulesLike_dismissedError

theorem unreachablePath_mem : unreachablePath ∈ (classifier.classify code).findings ↔
    0 < (Metric.measure metrics code).get "unreachable" :=
  Classifier.mem_findings_of_presence rfl rulesLike_unreachablePath

/-- What the review tells of dismissed errors, and what it counts. -/
structure DismissalsTold (code : Text) : Prop where
  dismissals : dismissedError ∈ (classifier.classify code).findings ↔ HasDismissal code
  words : unreachablePath ∈ (classifier.classify code).findings ↔ HasWord "unreachable" code
  alone : dismissedError ∈ (classifier.classify code).findings ∧
      unreachablePath ∉ (classifier.classify code).findings ↔
    HasDismissal code ∧ ∀ a b, code = a ++ (ofString "unreachable" ++ b) →
      AfterWord (lastOr none a) ∨ AfterWord b.head?
  figures : 0 < (Metric.measure metrics code).get "catch_unreachable" ∧
      (Metric.measure metrics code).get "unreachable" = 0 ↔
    dismissedError ∈ (classifier.classify code).findings ∧
      unreachablePath ∉ (classifier.classify code).findings
  bound : (Metric.measure metrics code).get "catch_unreachable" ≤
    (Metric.measure metrics code).get "unreachable" + (dismissal.stops code).countP (runsOn code)

/-- A dismissed error is told wherever its text stands, and the word `unreachable` only where it
stands whole. So the one is told without the other exactly if an error is dismissed and each
`unreachable` runs on into a longer word. There are at most as many dismissals as whole words, those
that run on apart. -/
theorem dismissals_told (code : Text) : DismissalsTold code := by
  have hdismissals : dismissedError ∈ (classifier.classify code).findings ↔ HasDismissal code := by
    rw [dismissedError_mem, get_catch_unreachable, count_dismissal_pos_iff]
  have hwords : unreachablePath ∈ (classifier.classify code).findings ↔
      HasWord "unreachable" code := by
    rw [unreachablePath_mem, get_unreachable, count_word_pos_iff isName_unreachable]
  refine ⟨hdismissals, hwords, ?_, ?_, count_dismissal_le code⟩
  · rw [hdismissals, hwords, not_hasWord_iff]
  · rw [dismissedError_mem, unreachablePath_mem, Nat.not_lt, Nat.le_zero]

/-- A call of a function whose name begins with the word is told as a dismissed error. -/
theorem dismissal_of_longer_word :
    dismissedError ∈ (classifier.classify "const f = open() catch unreachableFile();").findings ∧
    unreachablePath ∉ (classifier.classify "const f = open() catch unreachableFile();").findings ∧
    (Metric.measure metrics "const f = open() catch unreachableFile();").get
      "catch_unreachable" = 1 ∧
    (Metric.measure metrics "const f = open() catch unreachableFile();").get "unreachable" = 0 := by
  have hfigures : (Metric.measure metrics "const f = open() catch unreachableFile();").get
        "catch_unreachable" = 1 ∧
      (Metric.measure metrics "const f = open() catch unreachableFile();").get
        "unreachable" = 0 := by
    decide +kernel
  rw [dismissedError_mem, unreachablePath_mem, hfigures.1, hfigures.2]
  exact ⟨Nat.one_pos, Nat.lt_irrefl 0, rfl, rfl⟩

end Safety

end ZigAdvisor
