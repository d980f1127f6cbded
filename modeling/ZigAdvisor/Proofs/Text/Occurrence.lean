import ZigAdvisor.Proofs.Text.Word

/-!
# Occurrences across seams

A word occurs in two texts put together where it occurs in one of them, unless it reaches over the
seam; it cannot if the code point before or behind the seam is not in it. Two words that stand at
the same place, perhaps behind blanks, begin alike (`Meets`).
-/

namespace ZigAdvisor.Text

variable {t w x y z b v : Text} {c : CodePoint}

theorem contains_iff : t.contains w = true ↔ w <:+: t := by
  induction t with
  | nil => rw [contains, List.isEmpty_iff, List.infix_nil]
  | cons c t ih =>
    rw [contains, Bool.or_eq_true, ih, startsWith, List.isPrefixOf_iff_prefix, List.infix_cons_iff]

theorem infix_append_of_last (hx : x.getLast? = some c) (hc : c ∉ w) :
    w <:+: x ++ y ↔ w <:+: x ∨ w <:+: y := by
  rw [List.infix_append_iff]
  refine or_congr_right (or_iff_left_of_imp ?_)
  rintro ⟨u, r, rfl, ⟨a, rfl⟩, hr⟩
  rcases List.eq_nil_or_concat' u with rfl | ⟨u, d, rfl⟩
  · exact hr.isInfix
  · rw [← List.append_assoc, List.getLast?_concat] at hx
    obtain rfl := Option.some.inj hx
    exact absurd (by simp) hc

theorem infix_append_of_head (hy : y.head? = some c) (hc : c ∉ w) :
    w <:+: x ++ y ↔ w <:+: x ∨ w <:+: y := by
  rw [List.infix_append_iff, ← or_assoc]
  refine or_iff_left_of_imp ?_
  rintro ⟨u, r, rfl, hu, ⟨a, rfl⟩⟩
  cases r with
  | nil =>
    rw [List.append_nil]
    exact Or.inl hu.isInfix
  | cons d r =>
    obtain rfl := Option.some.inj hy
    exact absurd (by simp) hc

theorem infix_append_cons (hc : c ∉ w) : w <:+: x ++ c :: y ↔ w <:+: x ∨ w <:+: y := by
  rw [infix_append_of_head rfl hc, List.infix_cons_iff]
  refine or_congr_right (or_iff_right_of_imp ?_)
  intro hprefix
  cases w with
  | nil => exact List.nil_infix
  | cons d w =>
    obtain ⟨rfl, -⟩ := List.cons_prefix_cons.mp hprefix
    exact absurd List.mem_cons_self hc

def Meets (w t : Text) : Prop := w <+: t ∨ t <+: w

instance : Decidable (Meets w t) := inferInstanceAs (Decidable (_ ∨ _))

theorem meets_of_append (h : w ++ x = t ++ y) : Meets w t :=
  List.prefix_or_prefix_of_prefix (List.prefix_append w x) (h ▸ List.prefix_append t y)

/-- Behind blanks, too, what stands at the same place begins alike. -/
theorem meets_of_blanks {d : CodePoint} (hb : ∀ c ∈ b, c.isBlank = true) (hd : d.isBlank = false)
    (h : b ++ ((d :: w) ++ x) = t ++ y) : Meets (d :: w) (t.dropWhile CodePoint.isBlank) := by
  rcases hrest : t.dropWhile CodePoint.isBlank with _ | ⟨e, r⟩
  · exact Or.inr List.nil_prefix
  have he : e.isBlank = false := by
    have := List.head?_dropWhile_not CodePoint.isBlank t
    simpa [hrest] using this
  have hblanks : ∀ c ∈ t.takeWhile CodePoint.isBlank, c.isBlank = true :=
    fun c hc => List.all_eq_true.mp List.all_takeWhile c hc
  rw [← List.takeWhile_append_dropWhile (p := CodePoint.isBlank) (l := t), hrest,
    List.append_assoc] at h
  obtain ⟨-, rfl, htail⟩ := run_unique hb hblanks hd he h
  exact meets_of_append (congrArg (d :: ·) htail)

/-- A code point of two texts put together stands in the one or in the other. -/
theorem append_eq_append_cons (h : x ++ y = z ++ c :: t) :
    (∃ v, x = z ++ c :: v ∧ t = v ++ y) ∨ ∃ b, z = x ++ b ∧ y = b ++ c :: t := by
  rcases List.append_eq_append_iff.mp h with ⟨b, rfl, hb⟩ | ⟨b, rfl, hb⟩
  · exact Or.inr ⟨b, rfl, hb⟩
  · cases b with
    | nil => exact Or.inr ⟨[], by simp, hb.symm⟩
    | cons d v =>
      obtain ⟨rfl, rfl⟩ := List.cons.inj hb
      exact Or.inl ⟨v, rfl, rfl⟩

/-- A condition holds at each place of a text; `front` is what stands before it, backwards. -/
def EachPlace (p : Text → CodePoint → Text → Prop) (front : Text) : Text → Prop
  | [] => True
  | c :: rest => p front c rest ∧ EachPlace p (c :: front) rest

instance decidableEachPlace {p : Text → CodePoint → Text → Prop}
    [∀ front c rest, Decidable (p front c rest)] : ∀ front t, Decidable (EachPlace p front t)
  | _, [] => .isTrue trivial
  | front, c :: rest =>
    have := decidableEachPlace (p := p) (c :: front) rest
    inferInstanceAs (Decidable (_ ∧ _))

theorem eachPlace_iff {p : Text → CodePoint → Text → Prop} {front : Text} :
    EachPlace p front t ↔ ∀ u c v, t = u ++ c :: v → p (u.reverse ++ front) c v := by
  induction t generalizing front with
  | nil => simp [EachPlace]
  | cons d t ih =>
    rw [EachPlace, ih]
    constructor
    · rintro ⟨hp, hrest⟩ u c v ht
      cases u with
      | nil =>
        obtain ⟨rfl, rfl⟩ := List.cons.inj ht
        exact hp
      | cons e u =>
        obtain ⟨rfl, rfl⟩ := List.cons.inj ht
        simpa using hrest u c v rfl
    · intro h
      refine ⟨h [] d t rfl, fun u c v ht => ?_⟩
      simpa using h (d :: u) c v (by rw [ht]; rfl)

end ZigAdvisor.Text
