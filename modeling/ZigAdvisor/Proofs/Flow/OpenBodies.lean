import ZigAdvisor.Proofs.Flow.Braces

/-!
# Bodies that are open behind some tokens

A scanner waits behind a header until a token ends it (`AwaitsBody`), and if a brace does, a body
begins. A closing brace matches the opening one from which the braces between them are paired, and
one that matches none is passed over. A machine that keeps the depth of braces and the depths at
which bodies began (`KeepsBodies`) knows everywhere which bodies are open: those whose brace is not
matched before (`KeepsBodies.mem_bodies_iff`). Of two open bodies one is inside the other, and it is
the deeper one (`KeepsBodies.depth_lt_iff`).
-/

namespace ZigAdvisor

section Rows

variable {α : Type} {xs u u' v v' : List α} {t x : α}

/-- The last token of a row comes last in its part behind another token, or is that token. -/
theorem concat_eq_append_cons :
    xs ++ [t] = u ++ x :: v ↔
      (t = x ∧ xs = u ∧ v = []) ∨ ∃ w, v = w ++ [t] ∧ xs = u ++ x :: w := by
  constructor
  · intro h
    rcases List.eq_nil_or_concat' v with rfl | ⟨w, y, rfl⟩
    · have hlast := List.append_inj_right' h rfl
      exact Or.inl ⟨(List.cons.inj hlast).1, List.append_inj_left' h rfl, rfl⟩
    · rw [← List.cons_append, ← List.append_assoc] at h
      have hlast := List.append_inj_right' h rfl
      exact Or.inr ⟨w, by rw [hlast], List.append_inj_left' h rfl⟩
  · rintro (⟨rfl, rfl, rfl⟩ | ⟨w, rfl, rfl⟩)
    · rfl
    · rw [List.append_assoc, List.cons_append]

/-- Of two places of a token in a row, one stands behind the other. -/
theorem append_cons_cases (h : u ++ x :: v = u' ++ x :: v') : u = u' ∨
    (∃ y, u' = u ++ x :: y ∧ v = y ++ x :: v') ∨ ∃ y, u = u' ++ x :: y ∧ v' = y ++ x :: v := by
  have hcons {a w w' : List α} (ha : x :: w = a ++ x :: w') :
      a = [] ∨ ∃ y, a = x :: y ∧ w = y ++ x :: w' := by
    cases a with
    | nil => exact Or.inl rfl
    | cons z y =>
      obtain ⟨rfl, hw⟩ := List.cons.inj ha
      exact Or.inr ⟨y, rfl, hw⟩
  rcases List.append_eq_append_iff.mp h with ⟨a, rfl, ha⟩ | ⟨a, rfl, ha⟩
  · rcases hcons ha with rfl | ⟨y, rfl, hy⟩
    · exact Or.inl (List.append_nil u).symm
    · exact Or.inr (Or.inl ⟨y, rfl, hy⟩)
  · rcases hcons ha with rfl | ⟨y, rfl, hy⟩
    · exact Or.inl (List.append_nil u')
    · exact Or.inr (Or.inr ⟨y, rfl, hy⟩)

end Rows

/-- A machine over tokens that waits behind some headers until a token ends them. -/
structure AwaitsBody {α σ : Type} (step : σ → α → σ) (waiting : σ → Prop)
    (header ends : α → Prop) : Prop where
  waits : ∀ s t, header t → waiting (step s t)
  ended : ∀ s t, ends t → ¬ waiting (step s t)
  other : ∀ s t, ¬ header t → ¬ ends t → (waiting (step s t) ↔ waiting s)

namespace AwaitsBody

variable {α σ : Type} {step : σ → α → σ} {waiting : σ → Prop} {header ends : α → Prop} {s : σ}
  {xs before gap : List α} {t : α}

/-- A machine that waits goes on to wait while nothing ends the header. -/
theorem foldl (hw : AwaitsBody step waiting header ends) (hs : waiting s)
    (hgap : ∀ x ∈ gap, ¬ ends x) : waiting (gap.foldl step s) := by
  induction gap generalizing s with
  | nil => exact hs
  | cons x gap ih =>
    obtain ⟨hx, hgap⟩ := List.forall_mem_cons.mp hgap
    apply ih _ hgap
    by_cases hheader : header x
    · exact hw.waits s x hheader
    · exact (hw.other s x hheader hx).mpr hs

/-- Behind a header that nothing ends a machine waits. -/
theorem of_header (hw : AwaitsBody step waiting header ends) (ht : header t)
    (hgap : ∀ x ∈ gap, ¬ ends x) : waiting ((before ++ t :: gap).foldl step s) := by
  rw [List.foldl_append, List.foldl_cons]
  exact hw.foldl (hw.waits _ t ht) hgap

/-- A machine waits behind the last header, which nothing has ended. -/
theorem exists_header (hw : AwaitsBody step waiting header ends) (hs : ¬ waiting s)
    (h : waiting (xs.foldl step s)) : ∃ before t gap, xs = before ++ t :: gap ∧ header t ∧
      ∀ x ∈ gap, ¬ header x ∧ ¬ ends x := by
  induction xs using List.reverseRecOn with
  | nil => exact absurd h hs
  | append_singleton xs t ih =>
    rw [List.foldl_concat] at h
    by_cases hheader : header t
    · exact ⟨xs, t, [], rfl, hheader, by simp⟩
    · have hends : ¬ ends t := fun ht => hw.ended _ t ht h
      obtain ⟨before, x, gap, rfl, hx, hgap⟩ := ih ((hw.other _ t hheader hends).mp h)
      refine ⟨before, x, gap ++ [t], by simp, hx, ?_⟩
      rw [List.forall_mem_append, List.forall_mem_singleton]
      exact ⟨hgap, hheader, hends⟩

end AwaitsBody

variable {α : Type} [DecidableEq α] {o c t : α} {xs u v inside before : List α}

theorem count_concat (xs : List α) (t x : α) :
    (xs ++ [t]).count x = xs.count x + if t = x then 1 else 0 := by
  rw [List.count_append, List.count_singleton]
  simp only [beq_iff_eq]

structure Paired (opening closing : α) (xs : List α) : Prop where
  closed : ∀ u v, xs = u ++ v → u.count closing ≤ u.count opening
  total : xs.count closing = xs.count opening

/-- Whether a brace that opens in front of a row of tokens is not matched in it. -/
def StaysOpen (opening closing : α) (inside : List α) : Prop :=
  ∀ u v, inside = u ++ closing :: v → ¬ Paired opening closing u

namespace StaysOpen

theorem nil : StaysOpen o c [] := by
  intro u v h
  simp at h

theorem of_append (h : StaysOpen o c (u ++ v)) : StaysOpen o c u := by
  intro u' v' hu
  apply h u' (v' ++ v)
  rw [hu, List.append_assoc, List.cons_append]

/-- A brace is matched by a closing one in front of which the others are paired. -/
theorem concat_iff :
    StaysOpen o c (inside ++ [t]) ↔ StaysOpen o c inside ∧ (t = c → ¬ Paired o c inside) := by
  constructor
  · intro h
    refine ⟨h.of_append, ?_⟩
    rintro rfl
    exact h inside [] rfl
  · rintro ⟨h, ht⟩ u v huv
    rcases concat_eq_append_cons.mp huv with ⟨rfl, rfl, -⟩ | ⟨w, -, hw⟩
    · exact ht rfl
    · exact h u w hw

/-- Where a brace stays open, no more braces close than open behind it. -/
theorem closed (h : StaysOpen o c inside) :
    ∀ u v, inside = u ++ v → u.count c ≤ u.count o := by
  induction inside using List.reverseRecOn with
  | nil =>
    intro u v huv
    rw [(List.append_eq_nil_iff.mp huv.symm).1]
    exact le_rfl
  | append_singleton inside t ih =>
    obtain ⟨hinside, ht⟩ := concat_iff.mp h
    have hfront := ih hinside
    intro u v huv
    rcases List.eq_nil_or_concat' v with rfl | ⟨v, x, rfl⟩
    · have hle := hfront inside [] (List.append_nil inside).symm
      rw [List.append_nil] at huv
      rw [← huv, count_concat, count_concat]
      by_cases hclosing : t = c
      · have htotal : inside.count c ≠ inside.count o :=
          fun htotal => ht hclosing ⟨hfront, htotal⟩
        rw [if_pos hclosing]
        omega
      · rw [if_neg hclosing]
        omega
    · rw [← List.append_assoc] at huv
      exact hfront u v (List.append_inj_left' huv rfl)

theorem count_le (h : StaysOpen o c inside) : inside.count c ≤ inside.count o :=
  h.closed inside [] (List.append_nil inside).symm

theorem paired_iff (h : StaysOpen o c inside) :
    Paired o c inside ↔ inside.count c = inside.count o :=
  ⟨Paired.total, fun htotal => ⟨h.closed, htotal⟩⟩

end StaysOpen

/-- A brace that stays open is the last token or stays open in front of it. -/
theorem exists_staysOpen_concat {begins : List α → Prop} :
    (∃ before inside, xs ++ [t] = before ++ o :: inside ∧ StaysOpen o c inside ∧ begins before) ↔
      (t = o ∧ begins xs) ∨ ∃ before inside, xs = before ++ o :: inside ∧
        StaysOpen o c (inside ++ [t]) ∧ begins before := by
  constructor
  · rintro ⟨before, inside, hxs, hopen, hbegins⟩
    rcases concat_eq_append_cons.mp hxs with ⟨rfl, rfl, -⟩ | ⟨w, rfl, rfl⟩
    · exact Or.inl ⟨rfl, hbegins⟩
    · exact Or.inr ⟨before, w, rfl, hopen, hbegins⟩
  · rintro (⟨rfl, hbegins⟩ | ⟨before, inside, rfl, hopen, hbegins⟩)
    · exact ⟨xs, [], rfl, .nil, hbegins⟩
    · exact ⟨before, inside ++ [t], by simp, hopen, hbegins⟩

/-- A machine over tokens that keeps the depth of braces and the depths at which bodies began. A
body begins with a brace for which the machine waits. -/
structure KeepsBodies {σ : Type} (opening closing : α) (step : σ → α → σ) (depth : σ → ℕ)
    (bodies : σ → List ℕ) (waiting : σ → Prop) : Prop where
  ne : opening ≠ closing
  depth_opening : ∀ s, depth (step s opening) = depth s + 1
  body : ∀ s, waiting s → bodies (step s opening) = depth s :: bodies s
  block : ∀ s, ¬ waiting s → bodies (step s opening) = bodies s
  depth_closing : ∀ s, depth (step s closing) = depth s - 1
  bodies_closing : ∀ s, bodies (step s closing) = (bodies s).dropWhile (depth s - 1 ≤ ·)
  other : ∀ s t, t ≠ opening → t ≠ closing →
    depth (step s t) = depth s ∧ bodies (step s t) = bodies s

namespace KeepsBodies

variable {σ : Type} {step : σ → α → σ} {depth : σ → ℕ} {bodies : σ → List ℕ} {waiting : σ → Prop}
  {s : σ} {d : ℕ}

theorem stacked_step (hk : KeepsBodies o c step depth bodies waiting)
    (hs : Stacked (bodies s) (depth s)) (t : α) :
    Stacked (bodies (step s t)) (depth (step s t)) := by
  by_cases hopen : t = o
  · subst hopen
    rw [hk.depth_opening]
    by_cases hwaiting : waiting s
    · rw [hk.body s hwaiting]
      exact hs.push
    · rw [hk.block s hwaiting]
      exact hs.deeper
  · by_cases hclose : t = c
    · subst hclose
      rw [hk.depth_closing, hk.bodies_closing]
      exact hs.drop _
    · rw [(hk.other s t hopen hclose).1, (hk.other s t hopen hclose).2]
      exact hs

theorem stacked_run (hk : KeepsBodies o c step depth bodies waiting) (hs : bodies s = [])
    (xs : List α) : Stacked (bodies (xs.foldl step s)) (depth (xs.foldl step s)) := by
  induction xs using List.reverseRecOn with
  | nil =>
    rw [List.foldl_nil, hs]
    exact .nil
  | append_singleton xs t ih =>
    rw [List.foldl_concat]
    exact hk.stacked_step ih t

/-- Inside an open brace the depth is how many braces are open there, that one included. -/
theorem depth_inside (hk : KeepsBodies o c step depth bodies waiting)
    (h : StaysOpen o c inside) (s : σ) :
    depth (inside.foldl step (step s o)) + inside.count c = depth s + 1 + inside.count o := by
  induction inside using List.reverseRecOn with
  | nil =>
    have := hk.depth_opening s
    simpa using this
  | append_singleton inside t ih =>
    obtain ⟨hinside, hmatch⟩ := StaysOpen.concat_iff.mp h
    have hdepth := ih hinside
    have hle := h.count_le
    rw [count_concat, count_concat] at hle ⊢
    rw [List.foldl_concat]
    by_cases hopen : t = o
    · subst hopen
      rw [hk.depth_opening, if_pos rfl, if_neg hk.ne]
      omega
    · by_cases hclose : t = c
      · subst hclose
        rw [if_pos rfl, if_neg hopen] at hle
        rw [hk.depth_closing, if_pos rfl, if_neg hopen]
        omega
      · rw [(hk.other _ t hopen hclose).1, if_neg hopen, if_neg hclose]
        omega

/-- A closing brace leaves open the bodies that did not begin right inside the brace it matches. -/
theorem concat_closing_iff (hk : KeepsBodies o c step depth bodies waiting)
    (h : StaysOpen o c inside) (s : σ) : StaysOpen o c (inside ++ [c]) ↔
      depth s < depth (inside.foldl step (step s o)) - 1 := by
  have hdepth := hk.depth_inside h s
  have hle := h.count_le
  rw [StaysOpen.concat_iff, and_iff_right h, forall_prop_of_true rfl, h.paired_iff]
  omega

/-- The bodies that a machine keeps are those whose brace is not matched. -/
theorem mem_bodies_iff (hk : KeepsBodies o c step depth bodies waiting) (hs : bodies s = []) :
    d ∈ bodies (xs.foldl step s) ↔ ∃ before inside, xs = before ++ o :: inside ∧
      StaysOpen o c inside ∧ waiting (before.foldl step s) ∧ depth (before.foldl step s) = d := by
  induction xs using List.reverseRecOn with
  | nil => simp [hs]
  | append_singleton xs t ih =>
    rw [List.foldl_concat, exists_staysOpen_concat]
    by_cases hclose : t = c
    · subst hclose
      rw [or_iff_right fun h => hk.ne h.1.symm, hk.bodies_closing,
        Stacked.dropWhile_eq_filter (hk.stacked_run hs xs).falling, List.mem_filter, ih,
        decide_eq_true_iff]
      constructor
      · rintro ⟨⟨before, inside, rfl, hopen, hwaiting, rfl⟩, hlt⟩
        refine ⟨before, inside, rfl, ?_, hwaiting, rfl⟩
        rw [List.foldl_append, List.foldl_cons] at hlt
        exact (hk.concat_closing_iff hopen _).mpr hlt
      · rintro ⟨before, inside, rfl, hopen, hwaiting, rfl⟩
        refine ⟨⟨before, inside, rfl, hopen.of_append, hwaiting, rfl⟩, ?_⟩
        rw [List.foldl_append, List.foldl_cons]
        exact (hk.concat_closing_iff hopen.of_append _).mp hopen
    · have hstays (inside : List α) : StaysOpen o c (inside ++ [t]) ↔ StaysOpen o c inside := by
        rw [StaysOpen.concat_iff]
        exact and_iff_left fun h => absurd h hclose
      simp only [hstays]
      rw [← ih]
      by_cases hopen : t = o
      · subst hopen
        by_cases hwaiting : waiting (xs.foldl step s)
        · rw [hk.body _ hwaiting, List.mem_cons]
          simp [hwaiting, eq_comm]
        · rw [hk.block _ hwaiting]
          simp [hwaiting]
      · rw [(hk.other _ t hopen hclose).2]
        simp [hopen]

/-! ## Bodies inside each other -/

variable {before' inside' : List α}

/-- What begins inside an open brace is deeper than the brace. -/
theorem depth_lt (hk : KeepsBodies o c step depth bodies waiting) (h : StaysOpen o c inside)
    (before : List α) (s : σ) :
    depth (before.foldl step s) < depth ((before ++ o :: inside).foldl step s) := by
  have hdepth := hk.depth_inside h (before.foldl step s)
  have hle := h.count_le
  rw [List.foldl_append, List.foldl_cons]
  omega

/-- Of two open braces the deeper one is inside the other. -/
theorem depth_lt_iff (hk : KeepsBodies o c step depth bodies waiting)
    (h : before ++ o :: inside = before' ++ o :: inside') (hopen : StaysOpen o c inside)
    (hopen' : StaysOpen o c inside') :
    depth (before.foldl step s) < depth (before'.foldl step s) ↔
      ∃ y, before' = before ++ o :: y ∧ inside = y ++ o :: inside' := by
  constructor
  · intro hlt
    rcases append_cons_cases h with rfl | hbehind | ⟨y, rfl, rfl⟩
    · exact absurd hlt (lt_irrefl _)
    · exact hbehind
    · exact absurd hlt (hk.depth_lt hopen'.of_append before' s).not_gt
  · rintro ⟨y, rfl, rfl⟩
    exact hk.depth_lt hopen.of_append before s

/-- Open braces at the same depth are the same one. -/
theorem eq_of_depth_eq (hk : KeepsBodies o c step depth bodies waiting)
    (h : before ++ o :: inside = before' ++ o :: inside') (hopen : StaysOpen o c inside)
    (hopen' : StaysOpen o c inside')
    (hdepth : depth (before.foldl step s) = depth (before'.foldl step s)) : before = before' := by
  rcases append_cons_cases h with heq | ⟨y, rfl, rfl⟩ | ⟨y, rfl, rfl⟩
  · exact heq
  · exact absurd hdepth (hk.depth_lt hopen.of_append before s).ne
  · exact absurd hdepth (hk.depth_lt hopen'.of_append before' s).ne'

end KeepsBodies

end ZigAdvisor
