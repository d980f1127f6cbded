import ZigAdvisor.Text.Case
import ZigAdvisor.Proofs.Text.Occurrence

/-!
# Lower case of texts that are put together

How a capital sigma is put into lower case depends on the letters around it, code points that case
ignores passed over. The view ends at a code point that case neither ignores nor knows, such as a
space. So what stands before it and what stands behind it are put into lower case as they would be
by themselves (`lower_append_cons`), and a word without spaces occurs in the one or in the other.
-/

namespace ZigAdvisor

/-- Whether no code point sees beyond this one in a change of case. -/
def CodePoint.endsView (c : CodePoint) : Bool := !c.isCaseIgnorable && !c.isCased

namespace Text

variable {front t s w : Text} {c : CodePoint}

theorem meetsCased_append_cons (hc : c.endsView = true) :
    meetsCased (t ++ c :: s) = meetsCased t := by
  obtain ⟨hignored, hcased⟩ := Bool.and_eq_true_iff.mp hc
  rw [Bool.not_eq_true'] at hignored hcased
  rw [meetsCased, meetsCased, List.dropWhile_append]
  split
  · next hnil =>
    rw [List.isEmpty_iff.mp hnil, List.dropWhile_cons_of_neg (by simp [hignored])]
    simp [hcased]
  · next hne =>
    rw [List.isEmpty_iff] at hne
    rw [List.head?_append_of_ne_nil _ hne]

/-- What stands in front of such a code point does not matter behind it. -/
theorem lowerAfter_front (hc : c.endsView = true) (front back t : Text) :
    lowerAfter (front ++ c :: back) t = lowerAfter front t := by
  induction t generalizing front with
  | nil => rfl
  | cons d t ih =>
    have hrest : lowerAfter (d :: (front ++ c :: back)) t = lowerAfter (d :: front) t :=
      ih (d :: front)
    rw [lowerAfter, lowerAfter, meetsCased_append_cons hc, hrest]

/-- What stands behind such a code point does not matter in front of it. -/
theorem lowerAfter_append_cons (hc : c.endsView = true) :
    lowerAfter front (t ++ c :: s) = lowerAfter front t ++ lower (c :: s) := by
  induction t generalizing front with
  | nil =>
    have hsigma : c.val ≠ 0x3A3 := by
      intro hval
      have hcased : c.isCased = true := by
        rw [CodePoint.isCased, hval]
        decide
      simp [CodePoint.endsView, hcased] at hc
    have hfront : lowerAfter (c :: front) s = lowerAfter [] s := lowerAfter_front hc [] front s
    have hview : lowerAfter [c] s = lowerAfter [] s := lowerAfter_front hc [] [] s
    rw [List.nil_append, lower, lowerAfter, lowerAfter, lowerAfter, if_neg hsigma, if_neg hsigma,
      hfront, hview]
    rfl
  | cons d t ih =>
    rw [List.cons_append, lowerAfter, lowerAfter, meetsCased_append_cons hc, ih, List.append_assoc]

theorem endsView_space : CodePoint.endsView ' ' = true := by decide

theorem lower_cons_space : lower ((' ' : CodePoint) :: s) = (' ' : CodePoint) :: lower s := by
  have hspace : CodePoint.toLower ' ' = [(' ' : CodePoint)] := by decide
  have hview : lowerAfter [(' ' : CodePoint)] s = lowerAfter [] s :=
    lowerAfter_front endsView_space [] [] s
  rw [lower, lowerAfter, if_neg (by decide), hspace, hview]
  rfl

/-- A space keeps two texts apart when they are put into lower case. -/
theorem lower_append_space :
    lower (t ++ (' ' : CodePoint) :: s) = lower t ++ (' ' : CodePoint) :: lower s := by
  rw [lower, lowerAfter_append_cons endsView_space, lower_cons_space]
  rfl

/-- A word without spaces does not arise where two texts meet at a space. -/
theorem infix_lower_append_space (hw : (' ' : CodePoint) ∉ w) :
    w <:+: lower (t ++ (' ' : CodePoint) :: s) ↔ w <:+: lower t ∨ w <:+: lower s := by
  rw [lower_append_space, infix_append_cons hw]

end Text

end ZigAdvisor
