import ZigAdvisor.Proofs.Flow.Juxtaposition
import ZigAdvisor.Proofs.Pattern.Counting

/-!
# Text that goes on

A token ends at its first parenthesis, brace or semicolon. So whatever follows a text, its tokens
are found again, and a token that reaches over its end comes behind all of them. Counts along the
tokens never fall, so a text has at least the loops, nested loops and recursive functions that its
beginning has.
-/

namespace ZigAdvisor

open Text

namespace Pattern

variable {p : Pattern} {E : CodePoint → Prop} {before last : Option CodePoint} {t rest : Text}
  {xs : List Text}

/-- Each match ends at the first of some code points. -/
def EndsAt (p : Pattern) (E : CodePoint → Prop) : Prop :=
  ∀ before m rest, p.Spans before m rest → ∃ n e, m = n ++ [e] ∧ E e ∧ ∀ c ∈ n, ¬ E c

theorem Scans.eq_nil (hE : p.EndsAt E) (h : Scans p before t xs last rest)
    (ht : ∀ c ∈ t, ¬ E c) : xs = [] := by
  induction h with
  | done => rfl
  | found spans _ _ =>
    obtain ⟨n, e, rfl, he, -⟩ := hE _ _ _ spans
    exact absurd he (ht e (by simp))
  | passed _ _ ih => exact ih fun c hc => ht c (List.mem_cons_of_mem _ hc)

/-- A text that a match reaches over has no end of a match in it. -/
theorem EndsAt.not_end_of_append (hE : p.EndsAt E) {a : Text} (h : p.Spans before (t ++ a) rest)
    (ha : a ≠ []) : ∀ c ∈ t, ¬ E c := by
  obtain ⟨n, e, hn, -, hfree⟩ := hE _ _ _ h
  obtain ⟨b, y, rfl⟩ := (List.eq_nil_or_concat' a).resolve_left ha
  rw [← List.append_assoc] at hn
  obtain ⟨rfl, -⟩ := List.append_inj' hn rfl
  exact fun c hc => hfree c (List.mem_append_left b hc)

/-- What a scan finds in a text it finds first in every text that begins so. -/
theorem Scans.grow (hp : p.Lexical) (hE : p.EndsAt E) (h : Scans p before t xs last [])
    (s : Text) : ∃ ys last', Scans p before (t ++ s) (xs ++ ys) last' [] := by
  generalize hrest : ([] : Text) = rest at h
  induction h with
  | done =>
    obtain ⟨ys, hys⟩ := hp.exists_scans _ s
    rw [← hrest]
    exact ⟨ys, _, hys⟩
  | found spans _ ih =>
    obtain ⟨ys, last', hys⟩ := ih hrest
    refine ⟨ys, last', ?_⟩
    rw [List.append_assoc]
    exact .found (hp.any_rest spans _) hys
  | @passed before c t found last rest skips others ih =>
    by_cases hskip : p.Skips before (c :: t ++ s)
    · obtain ⟨ys, last', hys⟩ := ih hrest
      exact ⟨ys, last', .passed hskip hys⟩
    · rw [Skips] at hskip
      push Not at hskip
      obtain ⟨m, behind, hm, hspan⟩ := hskip
      rcases List.append_eq_append_iff.mp hm with ⟨a, rfl, rfl⟩ | ⟨a, ha, -⟩
      · -- The match reaches over the end, so no other one ends before it.
        have hne : a ≠ [] := by
          rintro rfl
          rw [List.append_nil] at hspan
          exact skips (c :: t) [] (by simp) (hp.any_rest hspan [])
        have hnone : ∀ x ∈ t, ¬ E x := fun x hx =>
          hE.not_end_of_append hspan hne x (List.mem_cons_of_mem c hx)
        obtain ⟨ys, hys⟩ := hp.exists_scans (lastOr before (c :: t ++ a)) behind
        rw [others.eq_nil hE hnone]
        refine ⟨(c :: t ++ a) :: ys, lastOr (lastOr before (c :: t ++ a)) behind, ?_⟩
        rw [← List.append_assoc, ← hrest]
        exact .found hspan hys
      · exact absurd (hp.any_rest hspan a) (skips m a ha)

/-- Matches that end at the first of some code points end together where they overlap. -/
theorem EndsAt.endsTogether (h : p.EndsAt E) : p.EndsTogether := by
  classical
  intro before n behind u m rest hn hm heq hlt
  obtain ⟨front, e, rfl, he, hfront⟩ := h _ _ _ hn
  obtain ⟨front', e', rfl, he', hfront'⟩ := h _ _ _ hm
  obtain ⟨w, hw⟩ : u <+: front := by
    have hprefix : u <+: front ++ [e] ++ behind := ⟨_, heq.symm⟩
    rw [List.append_assoc] at hprefix
    apply List.prefix_of_prefix_length_le hprefix (List.prefix_append _ _)
    rw [List.length_append, List.length_singleton] at hlt
    omega
  subst hw
  -- Behind `u` both go up to the first code point that can end a match.
  simp only [List.append_assoc, List.singleton_append, List.append_cancel_left_eq] at heq
  have hfree : ∀ c ∈ w, (!decide (E c)) = true := by
    intro c hc
    simpa using hfront c (List.mem_append_right u hc)
  have hfree' : ∀ c ∈ front', (!decide (E c)) = true := by
    intro c hc
    simpa using hfront' c hc
  obtain ⟨rfl, rfl, -⟩ := run_unique hfree hfree' (by simpa using he) (by simpa using he') heq
  rw [List.append_assoc]

end Pattern

def IsEnd (c : CodePoint) : Prop := IsMark c ∨ c = ('(' : CodePoint)

theorem not_isEnd {c : CodePoint} (h : c.isWord = true ∨ c.isBlank = true) : ¬ IsEnd c := by
  rintro (hc | rfl)
  · simp [isWord_of_isMark hc, isBlank_of_isMark hc] at h
  · simp [isWord_paren, isBlank_paren] at h

theorem Text.IsCall.exists_concat {name m : Text} (h : IsCall name m) :
    ∃ n, m = n ++ [('(' : CodePoint)] ∧ ∀ c ∈ n, ¬ IsEnd c := by
  obtain ⟨⟨-, hname⟩, gap, hgap, rfl⟩ := h
  refine ⟨name ++ gap, (List.append_assoc _ _ _).symm, fun c hc => not_isEnd ?_⟩
  exact (List.mem_append.mp hc).imp (hname c) (hgap c)

theorem IsFunction.exists_concat {name m : Text} (h : IsFunction name m) :
    ∃ n, m = n ++ [('(' : CodePoint)] ∧ ∀ c ∈ n, ¬ IsEnd c := by
  obtain ⟨gap, call, -, hgap, hcall, rfl⟩ := h
  obtain ⟨n, rfl, hn⟩ := hcall.exists_concat
  refine ⟨ofString "fn" ++ (gap ++ n), by simp only [List.append_assoc], ?_⟩
  simp only [List.forall_mem_append]
  exact ⟨fun c hc => not_isEnd (Or.inl (isName_fn.2 c hc)),
    fun c hc => not_isEnd (Or.inr (hgap c hc)), hn⟩

theorem Pattern.endsAt_loopHeader {keywords : List String} (hk : AreWords keywords) :
    (loopHeader keywords).EndsAt IsEnd := by
  intro before m rest h
  obtain ⟨-, k, -, hcall⟩ := (spans_loopHeader hk).mp h
  obtain ⟨n, rfl, hn⟩ := hcall.exists_concat
  exact ⟨n, _, rfl, Or.inr rfl, hn⟩

theorem Pattern.Tokens.endsAt {p : Pattern} {W : Text → Prop} (hp : p.Tokens W)
    (hW : ∀ m, W m → ∃ n, m = n ++ [('(' : CodePoint)] ∧ ∀ c ∈ n, ¬ IsEnd c) :
    p.EndsAt IsEnd := by
  intro before m rest h
  rcases hp.spans_iff.mp h with ⟨-, hm⟩ | ⟨c, hc, rfl⟩
  · obtain ⟨n, rfl, hn⟩ := hW m hm
    exact ⟨n, _, rfl, Or.inr rfl, hn⟩
  · exact ⟨[], c, rfl, Or.inl hc, by simp⟩

namespace LoopToken

open Pattern

variable {keywords : List String}

theorem scan_prefix (hk : AreWords keywords) (A B : Text) :
    scan (loopHeader keywords) A <+: scan (loopHeader keywords) (A ++ B) := by
  have hend : (loopTokens keywords).EndsAt IsEnd := by
    refine (tokens_loop hk).endsAt ?_
    rintro m ⟨k, -, hcall⟩
    exact hcall.exists_concat
  obtain ⟨xs, hxs⟩ := exists_scans hk A
  obtain ⟨ys, last, hys⟩ := hxs.grow (tokens_loop hk).lexical hend B
  rw [scan_eq hk hxs, scan_eq hk hys, List.map_append]
  exact List.prefix_append _ _

end LoopToken

theorem CallToken.scan_prefix (A B : Text) : scan A <+: scan (A ++ B) := by
  have hend : Pattern.callTokens.EndsAt IsEnd := by
    refine Pattern.tokens_call.endsAt ?_
    rintro m (⟨name, h⟩ | ⟨name, h⟩)
    · exact h.exists_concat
    · exact h.exists_concat
  obtain ⟨xs, hxs⟩ := Pattern.tokens_call.lexical.exists_scans none A
  obtain ⟨ys, last, hys⟩ := hxs.grow Pattern.tokens_call.lexical hend B
  rw [scan_eq hxs, scan_eq hys, List.map_append]
  exact List.prefix_append _ _

/-- Later tokens only add to the nested loops. -/
theorem LoopNesting.nested_le_foldl (ts : List LoopToken) (s : LoopNesting) :
    s.nested ≤ (ts.foldl step s).nested := by
  have h := foldl_step_add ts { s with nested := 0 } s.nested
  rw [Nat.add_zero] at h
  rw [h]
  exact Nat.le_add_right _ _

/-- Later tokens only add to the recursive functions. -/
theorem SelfCalls.found_le_foldl (ts : List CallToken) (s : SelfCalls) :
    s.found ≤ (ts.foldl step s).found := by
  have h := foldl_step_add ts { s with found := 0 } s.found
  rw [Nat.add_zero] at h
  rw [h]
  exact Nat.le_add_right _ _

section

variable {keywords : List String} (A B : Text)

theorem count_loopHeader_le_append (hk : AreWords keywords) :
    (Pattern.loopHeader keywords).count A ≤ (Pattern.loopHeader keywords).count (A ++ B) := by
  rw [← LoopToken.count_header_scan hk, ← LoopToken.count_header_scan hk]
  exact (LoopToken.scan_prefix hk A B).sublist.count_le _

theorem nestedLoops_le_append (hk : AreWords keywords) :
    nestedLoops (.loopHeader keywords) A ≤ nestedLoops (.loopHeader keywords) (A ++ B) := by
  obtain ⟨ts, hts⟩ := LoopToken.scan_prefix hk A B
  rw [nestedLoops, nestedLoops, LoopNesting.run, LoopNesting.run, ← hts, List.foldl_append]
  exact LoopNesting.nested_le_foldl ts _

theorem recursiveFunctions_le_append : recursiveFunctions A ≤ recursiveFunctions (A ++ B) := by
  obtain ⟨ts, hts⟩ := CallToken.scan_prefix A B
  rw [recursiveFunctions, recursiveFunctions, SelfCalls.run, SelfCalls.run, ← hts,
    List.foldl_append]
  exact SelfCalls.found_le_foldl ts _

end

end ZigAdvisor
