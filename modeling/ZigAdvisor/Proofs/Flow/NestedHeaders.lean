import ZigAdvisor.Proofs.Flow.OpenBodies

/-!
# Headers inside a loop

A header is inside a loop if an earlier header has not ended before it, or has got a body that is
still open there (`LoopToken.InLoop`). The scanner knows of an earlier header whether it waits for
its body, and of the bodies that are open the depths at which they began. So it counts the headers
inside a loop, whether the braces of the text match or not (`nestedLoops_eq_card`).
-/

namespace ZigAdvisor

namespace LoopToken

variable {xs : List LoopToken} {t : LoopToken}

/-- Whether some tokens behind a header do not end it: a brace ends a header with its body, and a
semicolon without one. -/
def Unended (xs : List LoopToken) : Prop := opening ∉ xs ∧ terminator ∉ xs

/-- Whether what stands behind some tokens is inside a loop: one of their headers has not ended, or
the first brace or semicolon behind it is a brace that opens and is not matched. -/
def InLoop (xs : List LoopToken) : Prop := ∃ before behind, xs = before ++ header :: behind ∧
  (Unended behind ∨ ∃ gap inside, behind = gap ++ opening :: inside ∧ Unended gap ∧
    StaysOpen opening closing inside)

open scoped Classical in
noncomputable def nestedHeaders (tokens : List LoopToken) : Finset ℕ :=
  {i ∈ Finset.range tokens.length | tokens[i]? = some header ∧ InLoop (tokens.take i)}

/-- The last token is inside a loop if the ones before it say so. -/
theorem nestedHeaders_concat (xs : List LoopToken) (t : LoopToken) [Decidable (InLoop xs)] :
    nestedHeaders (xs ++ [t]) =
      if t = header ∧ InLoop xs then insert xs.length (nestedHeaders xs) else nestedHeaders xs := by
  classical
  have hfront : ∀ i ∈ Finset.range xs.length,
      ((xs ++ [t])[i]? = some header ∧ InLoop ((xs ++ [t]).take i)) ↔
        (xs[i]? = some header ∧ InLoop (xs.take i)) := by
    intro i hi
    have hlt := Finset.mem_range.mp hi
    rw [List.getElem?_append_left hlt, List.take_append_of_le_length hlt.le]
  have hlast : ((xs ++ [t])[xs.length]? = some header ∧ InLoop ((xs ++ [t]).take xs.length)) ↔
      (t = header ∧ InLoop xs) := by
    rw [List.getElem?_concat_length, List.take_left, Option.some_inj]
  rw [nestedHeaders, List.length_append, List.length_singleton, Finset.range_add_one,
    Finset.filter_insert, Finset.filter_congr hfront, nestedHeaders]
  by_cases h : t = header ∧ InLoop xs
  · rw [if_pos h, if_pos (hlast.mpr h)]
  · rw [if_neg h, if_neg fun h' => h (hlast.mp h')]

theorem length_notMem_nestedHeaders (xs : List LoopToken) : xs.length ∉ nestedHeaders xs := by
  simp [nestedHeaders]

end LoopToken

namespace LoopNesting

open LoopToken

variable {xs : List LoopToken}

theorem run_concat (xs : List LoopToken) (t : LoopToken) : run (xs ++ [t]) = (run xs).step t := by
  rw [run, run, List.foldl_concat]

theorem keepsBodies : KeepsBodies opening closing step depth bodies fun s => s.waiting = true where
  ne := by decide
  depth_opening _ := rfl
  body _ h := if_pos h
  block _ h := if_neg h
  depth_closing _ := rfl
  bodies_closing _ := rfl
  other s t hopen hclose := by
    cases t with
    | header | terminator => exact ⟨rfl, rfl⟩
    | opening => exact absurd rfl hopen
    | closing => exact absurd rfl hclose

theorem awaitsBody : AwaitsBody step (fun s => s.waiting = true) (· = header)
    (fun t => t = opening ∨ t = terminator) where
  waits s t ht := by
    subst ht
    rfl
  ended s t ht := by
    rcases ht with rfl | rfl
    · exact Bool.false_ne_true
    · exact Bool.false_ne_true
  other s t hheader hends := by
    cases t with
    | header => exact absurd rfl hheader
    | opening => exact absurd (Or.inl rfl) hends
    | closing => exact Iff.rfl
    | terminator => exact absurd (Or.inr rfl) hends

/-- The scanner waits behind a header that has not ended. -/
theorem waiting_run_iff : (run xs).waiting = true ↔
    ∃ before gap, xs = before ++ header :: gap ∧ Unended gap := by
  constructor
  · intro h
    obtain ⟨before, t, gap, rfl, rfl, hgap⟩ := awaitsBody.exists_header Bool.false_ne_true h
    exact ⟨before, gap, rfl, fun hopen => (hgap _ hopen).2 (Or.inl rfl),
      fun hend => (hgap _ hend).2 (Or.inr rfl)⟩
  · rintro ⟨before, gap, rfl, hopen, hend⟩
    apply awaitsBody.of_header rfl
    rintro x hx (rfl | rfl)
    · exact hopen hx
    · exact hend hx

/-- The scanner takes a header for a nested one where it is inside a loop. -/
theorem inLoop_iff : InLoop xs ↔ (run xs).waiting = true ∨ (run xs).bodies ≠ [] := by
  have hbodies (d : ℕ) : d ∈ (run xs).bodies ↔ ∃ front inside, xs = front ++ opening :: inside ∧
      StaysOpen opening closing inside ∧ (run front).waiting = true ∧ (run front).depth = d :=
    keepsBodies.mem_bodies_iff rfl
  constructor
  · rintro ⟨before, behind, rfl, hgap | ⟨gap, inside, rfl, hgap, hopen⟩⟩
    · exact Or.inl (waiting_run_iff.mpr ⟨before, behind, rfl, hgap⟩)
    · have hwaiting : (run (before ++ header :: gap)).waiting = true :=
        waiting_run_iff.mpr ⟨before, gap, rfl, hgap⟩
      exact Or.inr (List.ne_nil_of_mem ((hbodies _).mpr
        ⟨before ++ header :: gap, inside, by simp, hopen, hwaiting, rfl⟩))
  · rintro (hwaiting | hne)
    · obtain ⟨before, gap, rfl, hgap⟩ := waiting_run_iff.mp hwaiting
      exact ⟨before, gap, rfl, Or.inl hgap⟩
    · obtain ⟨d, hd⟩ := List.exists_mem_of_ne_nil _ hne
      obtain ⟨front, inside, rfl, hopen, hwaiting, -⟩ := (hbodies d).mp hd
      obtain ⟨before, gap, rfl, hgap⟩ := waiting_run_iff.mp hwaiting
      exact ⟨before, gap ++ opening :: inside, by simp, Or.inr ⟨gap, inside, rfl, hgap, hopen⟩⟩

/-- A scan counts the headers inside a loop. -/
theorem nested_run (xs : List LoopToken) : (run xs).nested = (nestedHeaders xs).card := by
  classical
  induction xs using List.reverseRecOn with
  | nil => rfl
  | append_singleton xs t ih =>
    rw [run_concat, nestedHeaders_concat]
    by_cases ht : t = header
    · subst ht
      by_cases hloop : InLoop xs
      · have hnested : ((run xs).waiting || !(run xs).bodies.isEmpty) = true := by
          simpa using inLoop_iff.mp hloop
        rw [if_pos ⟨rfl, hloop⟩, Finset.card_insert_of_notMem (length_notMem_nestedHeaders xs),
          ← ih]
        exact if_pos hnested
      · have hnested : ¬ ((run xs).waiting || !(run xs).bodies.isEmpty) = true := by
          simpa using fun h => hloop (inLoop_iff.mpr h)
        rw [if_neg fun h => hloop h.2, ← ih]
        exact if_neg hnested
    · rw [if_neg fun h => ht h.1, ← ih]
      cases t with
      | header => exact absurd rfl ht
      | opening | closing | terminator => rfl

end LoopNesting

/-- The nested loops of a text are the headers behind a header that has not ended, or inside the
body of one. -/
theorem nestedLoops_eq_card (loop : Pattern) (code : Text) :
    nestedLoops loop code = (LoopToken.nestedHeaders (LoopToken.scan loop code)).card :=
  LoopNesting.nested_run _

end ZigAdvisor
