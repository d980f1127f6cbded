import ZigAdvisor.Proofs.Flow.LoopScan

/-!
# Braces and what is open between them

A machine that reads the matches of a scan keeps the depth of braces and the depths at which the
open bodies began (`KeepsDepth`). On a text with balanced braces it comes back to the depth at which
it began, with no body open (`KeepsDepth.settle`). What may be left is a header that waits for its
body, and it waits exactly if no brace opens and no semicolon stands behind it
(`Waits.iff_leftOpen`).
-/

namespace ZigAdvisor

open Text

/-- The braces of a text match, where `depth` braces were open in front of it. -/
structure Balanced (depth : Nat) (t : Text) : Prop where
  closed : ∀ u v, t = u ++ v → u.count ('}' : CodePoint) ≤ depth + u.count ('{' : CodePoint)
  total : t.count ('}' : CodePoint) = depth + t.count ('{' : CodePoint)

namespace Balanced

variable {depth : Nat} {m t : Text}

/-- Behind the front of a balanced text, the braces are open that it opens and does not close. -/
theorem behind (h : Balanced depth (m ++ t)) :
    m.count ('}' : CodePoint) ≤ depth + m.count ('{' : CodePoint) ∧
      Balanced (depth + m.count ('{' : CodePoint) - m.count ('}' : CodePoint)) t := by
  have hfront := h.closed m t rfl
  refine ⟨hfront, fun u v ht => ?_, ?_⟩
  · have := h.closed (m ++ u) v (by rw [ht, List.append_assoc])
    rw [List.count_append, List.count_append] at this
    omega
  · have := h.total
    rw [List.count_append, List.count_append] at this
    omega

instance (depth : Nat) (t : Text) : Decidable (Balanced depth t) :=
  decidable_of_iff ((∀ n ≤ t.length, (t.take n).count ('}' : CodePoint) ≤
      depth + (t.take n).count ('{' : CodePoint)) ∧
    t.count ('}' : CodePoint) = depth + t.count ('{' : CodePoint)) <| by
    constructor
    · rintro ⟨hclosed, htotal⟩
      refine ⟨?_, htotal⟩
      rintro u v rfl
      have := hclosed u.length (by simp)
      rwa [List.take_left] at this
    · rintro ⟨hclosed, htotal⟩
      exact ⟨fun n _ => hclosed _ _ (List.take_append_drop n t).symm, htotal⟩

end Balanced

/-- The depths at which open bodies began, the innermost first, all below the current one. -/
structure Stacked (bodies : List Nat) (depth : Nat) : Prop where
  falling : bodies.Pairwise (· > ·)
  below : ∀ d ∈ bodies, d < depth

namespace Stacked

variable {bodies : List Nat} {depth : Nat}

theorem nil : Stacked [] depth := ⟨List.Pairwise.nil, by simp⟩

theorem deeper (h : Stacked bodies depth) : Stacked bodies (depth + 1) :=
  ⟨h.falling, fun d hd => (h.below d hd).trans_le (by omega)⟩

theorem push (h : Stacked bodies depth) : Stacked (depth :: bodies) (depth + 1) where
  falling := List.pairwise_cons.mpr ⟨h.below, h.falling⟩
  below := List.forall_mem_cons.mpr ⟨by omega, h.deeper.below⟩

/-- Dropping the bodies that began at a depth or above leaves those below it. -/
theorem dropWhile_eq_filter (h : bodies.Pairwise (· > ·)) (d : Nat) :
    bodies.dropWhile (d ≤ ·) = bodies.filter (· < d) := by
  induction bodies with
  | nil => rfl
  | cons b bodies ih =>
    rw [List.pairwise_cons] at h
    by_cases hb : d ≤ b
    · rw [List.dropWhile_cons_of_pos (by simpa using hb), ih h.2,
        List.filter_cons_of_neg (by simpa using hb)]
    · have hall : ∀ c ∈ b :: bodies, c < d := by
        intro c hc
        rcases List.mem_cons.mp hc with rfl | hc
        · omega
        · have := h.1 c hc
          omega
      rw [List.dropWhile_cons_of_neg (by simpa using hb), List.filter_eq_self.mpr]
      simpa using hall

theorem drop (h : Stacked bodies depth) (d : Nat) : Stacked (bodies.dropWhile (d ≤ ·)) d := by
  rw [dropWhile_eq_filter h.falling]
  exact ⟨h.falling.filter _, fun c hc => by simpa using (List.mem_filter.mp hc).2⟩

end Stacked

namespace Pattern

/-- A match stands in the text with no opening brace and no semicolon behind it. -/
def LeftOpen (p : Pattern) (before : Option CodePoint) (t : Text) : Prop :=
  ∃ u m v, t = u ++ (m ++ v) ∧ p.Spans (lastOr before u) m v ∧
    ('{' : CodePoint) ∉ v ∧ (';' : CodePoint) ∉ v

end Pattern

/-- A machine over matches that keeps the depth of braces and of the bodies that are open. -/
structure KeepsDepth {σ : Type} (step : σ → Text → σ) (depth : σ → Nat) (bodies : σ → List Nat) :
    Prop where
  opening : ∀ s, depth (step s ['{']) = depth s + 1 ∧
    (bodies (step s ['{']) = bodies s ∨ bodies (step s ['{']) = depth s :: bodies s)
  closing : ∀ s, depth (step s ['}']) = depth s - 1 ∧
    bodies (step s ['}']) = (bodies s).dropWhile (depth s - 1 ≤ ·)
  other : ∀ s m, ('{' : CodePoint) ∉ m → ('}' : CodePoint) ∉ m →
    depth (step s m) = depth s ∧ bodies (step s m) = bodies s

namespace KeepsDepth

open Pattern

variable {σ : Type} {step : σ → Text → σ} {depth : σ → Nat} {bodies : σ → List Nat} {s : σ}
  {p : Pattern} {W : Text → Prop} {before last : Option CodePoint} {m t : Text} {found : List Text}

theorem stacked_step (hk : KeepsDepth step depth bodies) (hp : p.Tokens W)
    (h : p.Spans before m t) (hs : Stacked (bodies s) (depth s)) :
    Stacked (bodies (step s m)) (depth (step s m)) := by
  have hother (hopen : ('{' : CodePoint) ∉ m) (hclose : ('}' : CodePoint) ∉ m) :
      Stacked (bodies (step s m)) (depth (step s m)) := by
    rw [(hk.other s m hopen hclose).1, (hk.other s m hopen hclose).2]
    exact hs
  rcases hp.cases h with rfl | rfl | rfl | hm
  · rw [(hk.opening s).1]
    rcases (hk.opening s).2 with hb | hb
    · rw [hb]
      exact hs.deeper
    · rw [hb]
      exact hs.push
  · rw [(hk.closing s).1, (hk.closing s).2]
    exact hs.drop _
  · exact hother (by decide) (by decide)
  · exact hother (fun hc => hp.not_isMark hm _ hc isMark_opening)
      fun hc => hp.not_isMark hm _ hc isMark_closing

theorem depth_step (hk : KeepsDepth step depth bodies) (hp : p.Tokens W)
    (h : p.Spans before m t) : depth (step s m) =
      depth s + m.count ('{' : CodePoint) - m.count ('}' : CodePoint) := by
  rcases hp.cases h with rfl | rfl | rfl | hm
  · rw [(hk.opening s).1]
    rfl
  · rw [(hk.closing s).1]
    rfl
  · rw [(hk.other s _ (by decide) (by decide)).1]
    rfl
  · have hopen : ('{' : CodePoint) ∉ m := fun hc => hp.not_isMark hm _ hc isMark_opening
    have hclose : ('}' : CodePoint) ∉ m := fun hc => hp.not_isMark hm _ hc isMark_closing
    rw [(hk.other s m hopen hclose).1, List.count_eq_zero_of_not_mem hopen,
      List.count_eq_zero_of_not_mem hclose]
    rfl

/-- Balanced text ends where it began, and no body is open then. -/
theorem settle (hk : KeepsDepth step depth bodies) (hp : p.Tokens W)
    (h : Scans p before t found last []) (hb : Balanced (depth s) t)
    (hs : Stacked (bodies s) (depth s)) :
    depth (found.foldl step s) = 0 ∧ bodies (found.foldl step s) = [] := by
  generalize hrest : ([] : Text) = rest at h
  induction h generalizing s with
  | done =>
    obtain rfl := hrest
    have hzero : depth s = 0 := by simpa using hb.total.symm
    refine ⟨hzero, List.eq_nil_iff_forall_not_mem.mpr fun d hd => ?_⟩
    have := hs.below d hd
    omega
  | found spans _ ih =>
    refine ih ?_ (hk.stacked_step hp spans hs) hrest
    rw [hk.depth_step hp spans]
    exact hb.behind.2
  | @passed before c t found last rest skips _ ih =>
    refine ih ?_ hs hrest
    have hc := hp.not_isMark_of_skips skips
    have hopen : c ≠ '{' := fun h => hc (h ▸ isMark_opening)
    have hclose : c ≠ '}' := fun h => hc (h ▸ isMark_closing)
    have hbehind := (Balanced.behind (m := [c]) hb).2
    rwa [List.count_singleton, List.count_singleton, if_neg (by simpa using hopen),
      if_neg (by simpa using hclose)] at hbehind

end KeepsDepth

namespace Pattern

variable {p q : Pattern} {before : Option CodePoint} {m t : Text}

theorem not_leftOpen_nil (hq : q.Lexical) : ¬ q.LeftOpen before [] := by
  rintro ⟨u, m, v, ht, hspan, -⟩
  exact hq.ne_nil hspan (List.append_eq_nil_iff.mp (List.append_eq_nil_iff.mp ht.symm).2).1

theorem leftOpen_cons {c : CodePoint} (h : q.Skips before (c :: t)) :
    q.LeftOpen before (c :: t) ↔ q.LeftOpen (some c) t := by
  constructor
  · rintro ⟨u, m, v, ht, hspan, hv⟩
    cases u with
    | nil => exact absurd hspan (h m v ht)
    | cons x u =>
      obtain ⟨rfl, rfl⟩ := List.cons.inj ht
      exact ⟨u, m, v, rfl, hspan, hv⟩
  · rintro ⟨u, m, v, rfl, hspan, hv⟩
    exact ⟨c :: u, m, v, rfl, hspan, hv⟩

/-- Of what is left open, either it is the match in front or it comes behind it. -/
theorem leftOpen_append (hp : p.Lexical) (hqp : q.Within p) (h : p.Spans before m t) :
    q.LeftOpen before (m ++ t) ↔
      (q.Spans before m t ∧ ('{' : CodePoint) ∉ t ∧ (';' : CodePoint) ∉ t) ∨
        q.LeftOpen (lastOr before m) t := by
  constructor
  · rintro ⟨u, n, v, ht, hspan, hv⟩
    rcases List.append_eq_append_iff.mp ht with ⟨a, rfl, rfl⟩ | ⟨a, rfl, hn⟩
    · exact Or.inr ⟨a, n, v, rfl, by rwa [← lastOr_append], hv⟩
    · rcases u with _ | ⟨x, u⟩
      · obtain rfl := hp.unique (hqp.sub hspan) h hn
        obtain rfl := List.append_cancel_left hn
        exact Or.inl ⟨hspan, hv⟩
      · rcases a with _ | ⟨y, a⟩
        · refine Or.inr ⟨[], n, v, hn.symm, ?_, hv⟩
          rwa [List.append_nil]
        · exact absurd hspan
            (hqp.inside h (List.cons_ne_nil _ _) (List.cons_ne_nil _ _) n v hn.symm)
  · rintro (⟨hspan, hv⟩ | ⟨u, n, v, rfl, hspan, hv⟩)
    · exact ⟨[], m, t, rfl, hspan, hv⟩
    · exact ⟨m ++ u, n, v, (List.append_assoc _ _ _).symm, by rwa [lastOr_append], hv⟩

end Pattern

/-- A machine over matches of `p` that waits after each match of `q`, until a brace opens or a
semicolon ends the header. -/
structure Waits {σ : Type} (p q : Pattern) (step : σ → Text → σ) (waiting : σ → Bool) : Prop where
  header : ∀ s {before m rest}, q.Spans before m rest → waiting (step s m) = true
  ended : ∀ s, waiting (step s ['{']) = false ∧ waiting (step s [';']) = false
  other : ∀ s {before m rest}, p.Spans before m rest → ¬ q.Spans before m rest →
    ('{' : CodePoint) ∉ m → (';' : CodePoint) ∉ m → waiting (step s m) = waiting s

namespace Waits

open Pattern

variable {σ : Type} {p q : Pattern} {W : Text → Prop} {step : σ → Text → σ} {waiting : σ → Bool}
  {s : σ} {before last : Option CodePoint} {t : Text} {found : List Text}

/-- After a match a machine waits if it is a header, or if it waited and this ends no header. -/
theorem step_iff (hw : Waits p q step waiting) (hp : p.Tokens W) {m : Text}
    (h : p.Spans before m t) : waiting (step s m) = true ↔
      q.Spans before m t ∨ (waiting s = true ∧ ('{' : CodePoint) ∉ m ∧ (';' : CodePoint) ∉ m) := by
  by_cases hheader : q.Spans before m t
  · exact iff_of_true (hw.header s hheader) (Or.inl hheader)
  · rw [or_iff_right hheader]
    have hother (hopen : ('{' : CodePoint) ∉ m) (hend : (';' : CodePoint) ∉ m) :
        waiting (step s m) = true ↔
          waiting s = true ∧ ('{' : CodePoint) ∉ m ∧ (';' : CodePoint) ∉ m := by
      rw [hw.other s h hheader hopen hend]
      exact (and_iff_left ⟨hopen, hend⟩).symm
    rcases hp.cases h with rfl | rfl | rfl | hword
    · simp [(hw.ended s).1]
    · exact hother (by decide) (by decide)
    · simp [(hw.ended s).2]
    · exact hother (fun hc => hp.not_isMark hword _ hc isMark_opening)
        fun hc => hp.not_isMark hword _ hc isMark_semicolon

/-- A machine waits at the end if it waited at the beginning and nothing ended the header, or if a
header is left open. -/
theorem iff_leftOpen (hw : Waits p q step waiting) (hp : p.Tokens W) (hq : q.Lexical)
    (hqp : q.Within p) (h : Scans p before t found last []) :
    waiting (found.foldl step s) = true ↔
      (waiting s = true ∧ ('{' : CodePoint) ∉ t ∧ (';' : CodePoint) ∉ t) ∨
        q.LeftOpen before t := by
  generalize hrest : ([] : Text) = rest at h
  induction h generalizing s with
  | done =>
    obtain rfl := hrest
    simp [not_leftOpen_nil hq]
  | @found before m t found last rest spans _ ih =>
    rw [List.foldl_cons, ih hrest, leftOpen_append hp.lexical hqp spans, ← or_assoc]
    refine or_congr_left ?_
    rw [hw.step_iff hp spans]
    simp only [List.mem_append, not_or]
    tauto
  | @passed before c t found last rest skips _ ih =>
    have hskips : q.Skips before (c :: t) := fun m rest hm hspan => skips m rest hm (hqp.sub hspan)
    have hc := hp.not_isMark_of_skips skips
    have hopen : ('{' : CodePoint) ≠ c := fun h => hc (h ▸ isMark_opening)
    have hend : (';' : CodePoint) ≠ c := fun h => hc (h ▸ isMark_semicolon)
    rw [ih hrest, leftOpen_cons hskips]
    simp [hopen, hend]

end Waits

end ZigAdvisor
