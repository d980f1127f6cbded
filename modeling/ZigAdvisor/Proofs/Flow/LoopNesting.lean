import ZigAdvisor.Proofs.Flow.Braces

/-!
# Bounds on nested loops

A run that overlooks some headers stays under the run that sees them all (`Under`): it is at the
same depth, its open bodies are among the others, and it waits only if the other one waits. Hence
fewer keywords never find more nested loops, and the first header of a text is never nested.
-/

namespace ZigAdvisor

namespace LoopToken

/-- The first tokens are the second ones without some headers. -/
inductive Fewer : List LoopToken → List LoopToken → Prop
  | nil : Fewer [] []
  | keep {xs ys} (t : LoopToken) (h : Fewer xs ys) : Fewer (t :: xs) (t :: ys)
  | drop {xs ys} (h : Fewer xs ys) : Fewer xs (header :: ys)

theorem fewer_filter {found : List Text} {keep : Text → Bool}
    (h : ∀ m ∈ found, keep m = false → atFront m = header) :
    Fewer ((found.filter keep).map atFront) (found.map atFront) := by
  induction found with
  | nil => exact .nil
  | cons m found ih =>
    rw [List.forall_mem_cons] at h
    cases hm : keep m with
    | true =>
      rw [List.filter_cons_of_pos hm]
      exact .keep _ (ih h.2)
    | false =>
      rw [List.filter_cons_of_neg (by simp [hm]), List.map_cons, h.1 hm]
      exact .drop (ih h.2)

open Pattern in
/-- Fewer keywords leave out headers and no other tokens. -/
theorem fewer_scan {few keywords : List String} (hk : Text.AreWords keywords)
    (hfew : few ⊆ keywords) (t : Text) :
    Fewer (scan (loopHeader few) t) (scan (loopHeader keywords) t) := by
  classical
  obtain ⟨found, h⟩ := exists_scans hk t
  rw [scan_eq hk h, scan_eq (fun k hmem => hk k (hfew hmem)) (h.fewer hk hfew)]
  refine fewer_filter fun m hm hdrop => ?_
  obtain ⟨before, rest, hspan⟩ := h.exists_spans m hm
  rw [decide_eq_false_iff_not, not_or] at hdrop
  exact atFront_header (((spans_loopTokens hk).mp hspan).resolve_right hdrop.2).2

end LoopToken

namespace LoopNesting

variable {s f g : LoopNesting} {xs ys : List LoopToken}

theorem stacked_step (h : Stacked s.bodies s.depth) (t : LoopToken) :
    Stacked (s.step t).bodies (s.step t).depth := by
  cases t with
  | header => exact h
  | opening =>
    simp only [step]
    split_ifs
    · exact h.push
    · exact h.deeper
  | closing => exact h.drop _
  | terminator => exact h

/-- `g` has seen no more than `f`, and both are equally deep. -/
structure Under (g f : LoopNesting) : Prop where
  nested : g.nested ≤ f.nested
  depth : g.depth = f.depth
  bodies : g.bodies.Sublist f.bodies
  waiting : g.waiting = true → f.waiting = true

theorem Under.inLoop (h : g.Under f) (hg : (g.waiting || !g.bodies.isEmpty) = true) :
    (f.waiting || !f.bodies.isEmpty) = true := by
  rw [Bool.or_eq_true, Bool.not_eq_true', List.isEmpty_eq_false_iff] at *
  refine hg.imp h.waiting fun hne hnil => hne ?_
  exact List.sublist_nil.mp (hnil ▸ h.bodies)

/-- One step on the same token keeps a run under the other. -/
theorem Under.step (h : g.Under f) (hf : Stacked f.bodies f.depth) (t : LoopToken) :
    (g.step t).Under (f.step t) := by
  cases t with
  | header =>
    refine ⟨?_, h.depth, h.bodies, fun _ => rfl⟩
    have hnested := h.nested
    simp only [LoopNesting.step]
    split_ifs with hg hf
    · omega
    · exact absurd (h.inLoop hg) hf
    · omega
    · omega
  | opening =>
    refine ⟨h.nested, congrArg (· + 1) h.depth, ?_, fun hw => hw⟩
    simp only [LoopNesting.step, h.depth]
    split_ifs with hg hf
    · exact h.bodies.cons_cons _
    · exact absurd (h.waiting hg) hf
    · exact h.bodies.cons _
    · exact h.bodies
  | closing =>
    refine ⟨h.nested, congrArg (· - 1) h.depth, ?_, h.waiting⟩
    simp only [LoopNesting.step, h.depth, Stacked.dropWhile_eq_filter hf.falling,
      Stacked.dropWhile_eq_filter (hf.falling.sublist h.bodies)]
    exact h.bodies.filter _
  | terminator => exact ⟨h.nested, h.depth, h.bodies, fun hw => by simp [LoopNesting.step] at hw⟩

/-- A header that only the other run sees keeps a run under it. -/
theorem Under.step_header (h : g.Under f) : g.Under (f.step .header) := by
  refine ⟨h.nested.trans ?_, h.depth, h.bodies, fun _ => rfl⟩
  simp only [LoopNesting.step]
  split_ifs <;> omega

theorem Under.run (hxs : LoopToken.Fewer xs ys) (h : g.Under f) (hf : Stacked f.bodies f.depth) :
    (xs.foldl LoopNesting.step g).Under (ys.foldl LoopNesting.step f) := by
  induction hxs generalizing g f with
  | nil => exact h
  | keep t _ ih => exact ih (h.step hf t) (stacked_step hf t)
  | drop _ ih => exact ih h.step_header (stacked_step hf .header)

theorem nested_run_le (h : LoopToken.Fewer xs ys) : (run xs).nested ≤ (run ys).nested :=
  (Under.run h ⟨le_rfl, rfl, List.Sublist.refl _, id⟩ .nil).nested

theorem nested_foldl_le (xs : List LoopToken) (s : LoopNesting) :
    (xs.foldl step s).nested ≤ s.nested + xs.count .header := by
  induction xs generalizing s with
  | nil => simp
  | cons t xs ih =>
    have hstep : (s.step t).nested + xs.count .header ≤ s.nested + (t :: xs).count .header := by
      cases t with
      | header =>
        rw [List.count_cons_self]
        simp only [step]
        split_ifs <;> omega
      | opening | closing | terminator => exact Nat.add_le_add_left List.count_le_count_cons _
    exact (ih (s.step t)).trans hstep

/-- Outside of all loops, the next header is not nested. -/
theorem nested_foldl_lt (hw : s.waiting = false) (hb : s.bodies = []) (h : .header ∈ xs) :
    (xs.foldl step s).nested < s.nested + xs.count .header := by
  induction xs generalizing s with
  | nil => simp at h
  | cons t xs ih =>
    cases t with
    | header =>
      have hstep : (s.step .header).nested = s.nested := by simp [step, hw, hb]
      have := nested_foldl_le xs (s.step .header)
      rw [List.foldl_cons, List.count_cons_self]
      omega
    | opening =>
      have := ih (s := s.step .opening) rfl (by simp [step, hw, hb]) (by simpa using h)
      rwa [List.foldl_cons, List.count_cons_of_ne (by decide)]
    | closing =>
      have := ih (s := s.step .closing) hw (by simp [step, hb]) (by simpa using h)
      rwa [List.foldl_cons, List.count_cons_of_ne (by decide)]
    | terminator =>
      have := ih (s := s.step .terminator) rfl hb (by simpa using h)
      rwa [List.foldl_cons, List.count_cons_of_ne (by decide)]

end LoopNesting

open Pattern LoopToken in
/-- Fewer keywords never find more nested loops. -/
theorem nestedLoops_mono {few keywords : List String} (hk : Text.AreWords keywords)
    (hfew : few ⊆ keywords) (code : Text) :
    nestedLoops (loopHeader few) code ≤ nestedLoops (loopHeader keywords) code :=
  LoopNesting.nested_run_le (fewer_scan hk hfew code)

open Pattern LoopToken in
/-- The first loop of a text is not nested. -/
theorem nestedLoops_lt_count {keywords : List String} (hk : Text.AreWords keywords) {code : Text}
    (h : 0 < (loopHeader keywords).count code) :
    nestedLoops (loopHeader keywords) code < (loopHeader keywords).count code := by
  rw [← count_header_scan hk] at h ⊢
  have := LoopNesting.nested_foldl_lt (s := LoopNesting.start) rfl rfl (List.count_pos_iff.mp h)
  simpa [nestedLoops, LoopNesting.run, LoopNesting.start] using this

open Pattern LoopToken in
theorem nestedLoops_eq_zero {keywords : List String} (hk : Text.AreWords keywords) {code : Text}
    (h : (loopHeader keywords).count code = 0) : nestedLoops (loopHeader keywords) code = 0 := by
  rw [← count_header_scan hk] at h
  have := LoopNesting.nested_foldl_le (scan (loopHeader keywords) code) LoopNesting.start
  rw [h] at this
  exact Nat.le_zero.mp this

end ZigAdvisor
