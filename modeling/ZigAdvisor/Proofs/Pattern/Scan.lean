import ZigAdvisor.Proofs.Pattern.Spans

/-!
# Scanning a text for the matches of a pattern

`Pattern.Scans` follows a search from place to place: it passes a code point where nothing is
spanned, and a whole match where something is. For patterns that span at most one text at a place
it finds what `Pattern.starts` finds (`Scans.map_starts`), and scans of neighbouring texts compose.
-/

namespace ZigAdvisor.Pattern

/-- A pattern that spans no empty text and at most one text at a place, whatever follows it. -/
structure Lexical (p : Pattern) : Prop where
  ne_nil : ∀ {before m rest}, p.Spans before m rest → m ≠ []
  unique : ∀ {before m n rest rest'}, p.Spans before m rest → p.Spans before n rest' →
    m ++ rest = n ++ rest' → m = n
  any_rest : ∀ {before m rest}, p.Spans before m rest → ∀ rest', p.Spans before m rest'

def Skips (p : Pattern) (before : Option CodePoint) (t : Text) : Prop :=
  ∀ m rest, t = m ++ rest → ¬ p.Spans before m rest

/-- The matches of `q` are matches of `p`, and none starts inside another match of `p`. -/
structure Within (q p : Pattern) : Prop where
  sub : ∀ {before m rest}, q.Spans before m rest → p.Spans before m rest
  inside : ∀ {before u v rest}, p.Spans before (u ++ v) rest → u ≠ [] → v ≠ [] →
    q.Skips (Text.lastOr before u) (v ++ rest)

/-- A search from `t` finds `found` on its way to `rest`, where `last` stands in front. -/
inductive Scans (p : Pattern) :
    Option CodePoint → Text → List Text → Option CodePoint → Text → Prop
  | done {before t} : Scans p before t [] before t
  | found {before m t found last rest} (spans : p.Spans before m t)
      (others : Scans p (Text.lastOr before m) t found last rest) :
      Scans p before (m ++ t) (m :: found) last rest
  | passed {before c t found last rest} (skips : p.Skips before (c :: t))
      (others : Scans p (some c) t found last rest) :
      Scans p before (c :: t) found last rest

variable {p : Pattern} {before middle last : Option CodePoint} {t rest : Text} {xs ys : List Text}

theorem Scans.trans {s : Text} (first : Scans p before s xs middle t)
    (second : Scans p middle t ys last rest) : Scans p before s (xs ++ ys) last rest := by
  induction first with
  | done => exact second
  | found spans _ ih => exact .found spans (ih second)
  | passed skips _ ih => exact .passed skips (ih second)

theorem Scans.exists_spans (h : Scans p before t xs last rest) :
    ∀ m ∈ xs, ∃ before rest, p.Spans before m rest := by
  induction h with
  | done => simp
  | found spans _ ih => exact List.forall_mem_cons.mpr ⟨⟨_, _, spans⟩, ih⟩
  | passed _ _ ih => exact ih

/-- A text in which nothing starts is passed. -/
theorem Scans.pass {m : Text}
    (h : ∀ u v, m = u ++ v → v ≠ [] → p.Skips (Text.lastOr before u) (v ++ rest)) :
    Scans p before (m ++ rest) [] (Text.lastOr before m) rest := by
  induction m generalizing before with
  | nil => exact .done
  | cons c m ih =>
    refine .passed (h [] (c :: m) rfl (List.cons_ne_nil _ _)) (ih fun u v hm hv => ?_)
    exact h (c :: u) v (by rw [hm, List.cons_append]) hv

/-- What stands in front of a text matters for the text that is spanned first only. -/
theorem Scans.change_before {before' : Option CodePoint} (hp : p.Lexical)
    (hbefore : ∀ m rest, p.Spans before m rest ↔ p.Spans before' m rest)
    (h : Scans p before t xs last rest) : ∃ last', Scans p before' t xs last' rest := by
  cases h with
  | done => exact ⟨before', .done⟩
  | found spans others =>
    rw [Text.lastOr_eq_of_ne_nil (hp.ne_nil spans)] at others
    exact ⟨last, .found ((hbefore _ _).mp spans) others⟩
  | passed skips others =>
    exact ⟨last, .passed (fun m rest hm hspan => skips m rest hm ((hbefore _ _).mpr hspan)) others⟩

/-- A text that ends with a code point that is always a match by itself may go on in any way. -/
theorem Scans.extend {c : CodePoint} (hp : p.Lexical)
    (hc : ∀ {before m rest}, p.Spans before m rest → c ∈ m → m = [c])
    (h : Scans p before t xs last []) (hend : ∀ u x, t = u ++ [x] → x = c) (s : Text) :
    Scans p before (t ++ s) xs last s := by
  generalize hrest : ([] : Text) = rest at h
  induction h with
  | done =>
    rw [← hrest, List.nil_append]
    exact .done
  | @found before m t found last rest spans _ ih =>
    rw [List.append_assoc]
    refine .found (hp.any_rest spans _) (ih (fun u x ht => hend (m ++ u) x ?_) hrest)
    rw [ht, List.append_assoc]
  | @passed before x t found last rest skips _ ih =>
    refine .passed (fun m rest' hm hspan => ?_)
      (ih (fun u y ht => hend (x :: u) y (by rw [ht]; rfl)) hrest)
    have happend : (x :: t) ++ s = m ++ rest' := hm
    rcases List.append_eq_append_iff.mp happend with ⟨a, rfl, -⟩ | ⟨a, ha, -⟩
    · -- The match reaches over the end, so it has the last code point and nothing else.
      obtain ⟨u, y, hy⟩ : ∃ u y, x :: t = u ++ [y] :=
        (List.eq_nil_or_concat' _).resolve_left (List.cons_ne_nil _ _)
      obtain rfl := hend u y hy
      have hlen := congrArg List.length (hc hspan (by rw [hy]; simp))
      rw [List.length_append, List.length_cons, List.length_singleton] at hlen
      obtain rfl : a = [] := List.eq_nil_of_length_eq_zero (by omega)
      exact skips _ [] (by simp) (hp.any_rest hspan [])
    · exact skips m a ha (hp.any_rest hspan a)

theorem Lexical.exists_scans (hp : p.Lexical) (before : Option CodePoint) (t : Text) :
    ∃ xs, Scans p before t xs (Text.lastOr before t) [] := by
  induction hn : t.length using Nat.strong_induction_on generalizing before t with
  | _ n ih =>
    subst hn
    rcases t with _ | ⟨c, t⟩
    · exact ⟨[], .done⟩
    · by_cases hskip : p.Skips before (c :: t)
      · obtain ⟨xs, hxs⟩ := ih t.length (by simp) (some c) t rfl
        exact ⟨xs, .passed hskip hxs⟩
      · simp only [Skips] at hskip
        push Not at hskip
        obtain ⟨m, rest, ht, hm⟩ := hskip
        have hlen : rest.length < (c :: t).length := by
          have := List.length_pos_iff.mpr (hp.ne_nil hm)
          rw [ht, List.length_append]
          omega
        obtain ⟨xs, hxs⟩ := ih rest.length hlen (Text.lastOr before m) rest rfl
        refine ⟨m :: xs, ?_⟩
        rw [ht, Text.lastOr_append]
        exact .found hm hxs

theorem startsFrom_skip (m : Text) (offset : Nat) :
    p.startsFrom m.length offset before (m ++ t) =
      p.startsFrom 0 (offset + m.length) (Text.lastOr before m) t := by
  induction m generalizing offset before with
  | nil => rfl
  | cons c m ih =>
    rw [List.cons_append, List.length_cons, startsFrom, ih, Text.lastOr_cons, Nat.add_right_comm,
      Nat.add_assoc]

/-- Where a match is found the search goes on behind it. -/
theorem exists_startsFrom_eq {y : CodePoint} {d : Cursor} {offset : Nat}
    (hd : p.end? ⟨offset, before, y :: t⟩ = some d) (hne : ¬ p.Spans before [] (y :: t)) :
    ∃ m, y :: t = m ++ d.rest ∧ p.Spans before m d.rest ∧
      p.startsFrom 0 offset before (y :: t) = ⟨offset, before, y :: t⟩ ::
        p.startsFrom 0 (offset + m.length) (Text.lastOr before m) d.rest := by
  obtain ⟨m, ⟨hrest, hoffset, -⟩, hspan⟩ := reaches_of_end? hd
  simp only at hrest hoffset hspan
  refine ⟨m, hrest, hspan, ?_⟩
  cases m with
  | nil =>
    rw [List.nil_append] at hrest
    rw [← hrest] at hspan
    exact absurd hspan hne
  | cons z m =>
    rw [List.cons_append] at hrest
    obtain ⟨rfl, rfl⟩ := List.cons.inj hrest
    have hskip : d.offset - offset - 1 = m.length := by
      rw [hoffset, List.length_cons]
      omega
    rw [startsFrom, hd]
    simp only [hskip]
    rw [startsFrom_skip, Text.lastOr_cons, List.length_cons, Nat.add_assoc, Nat.add_comm 1]

/-- A scan to the end finds the matches of the search, in the same order. -/
theorem Scans.map_startsFrom {α : Type} (hp : p.Lexical) {read : Cursor → α} {token : Text → α}
    (hread : ∀ {c : Cursor} {m rest}, c.rest = m ++ rest → p.Spans c.before m rest →
      read c = token m)
    (h : Scans p before t xs last []) (offset : Nat) :
    (p.startsFrom 0 offset before t).map read = xs.map token := by
  generalize hrest : ([] : Text) = rest at h
  induction h generalizing offset with
  | done =>
    rw [← hrest, startsFrom]
    rfl
  | @found before m t found last rest spans _ ih =>
    obtain ⟨c, m, rfl⟩ := List.exists_cons_of_ne_nil (hp.ne_nil spans)
    rw [List.cons_append, startsFrom]
    split
    · next e he =>
      obtain ⟨n, hn, hspan⟩ := reaches_of_end? he
      obtain rfl := hp.unique spans hspan hn.1
      have hskip : e.offset - offset - 1 = m.length := by
        have := hn.2.1
        simp only [List.length_cons] at this
        omega
      rw [hskip, startsFrom_skip, List.map_cons, List.map_cons,
        @hread ⟨offset, before, c :: (m ++ t)⟩ _ _ rfl spans]
      exact congrArg _ (ih (offset + 1 + m.length) hrest)
    · next he => exact absurd spans (end?_eq_none_iff.mp he (c :: m) t rfl)
  | @passed before c t found last rest skips _ ih =>
    rw [startsFrom]
    split
    · next e he =>
      obtain ⟨n, hn, hspan⟩ := reaches_of_end? he
      exact absurd hspan (skips n e.rest hn.1)
    · exact ih (offset + 1) hrest

theorem Scans.map_starts {α : Type} (hp : p.Lexical) {read : Cursor → α} {token : Text → α}
    (hread : ∀ {c : Cursor} {m rest}, c.rest = m ++ rest → p.Spans c.before m rest →
      read c = token m)
    (h : Scans p none t xs last []) : (p.starts t).map read = xs.map token :=
  h.map_startsFrom hp hread 0

theorem Scans.count_eq (hp : p.Lexical) (h : Scans p none t xs last []) :
    p.count t = xs.length := by
  have hmap : (p.starts t).map (fun _ => ()) = xs.map (fun _ => ()) :=
    h.map_starts hp (fun _ _ => rfl)
  simpa only [count, List.length_map] using congrArg List.length hmap

/-- Scanning for fewer things finds the same things but for those that are left out. -/
theorem Scans.filter {q : Pattern} (hp : p.Lexical) (hq : q.Lexical) (hqp : q.Within p)
    {keep : Text → Bool}
    (hkeep : ∀ {before m rest}, p.Spans before m rest → (keep m ↔ q.Spans before m rest))
    (h : Scans p before t xs last rest) : Scans q before t (xs.filter keep) last rest := by
  induction h with
  | done => exact .done
  | @found before m t found last rest spans _ ih =>
    by_cases hm : keep m = true
    · rw [List.filter_cons_of_pos hm]
      exact .found ((hkeep spans).mp hm) ih
    · rw [List.filter_cons_of_neg hm]
      rw [← List.nil_append (found.filter keep)]
      refine Scans.trans (.pass fun u v huv hv => ?_) ih
      rcases List.eq_nil_or_concat' u with rfl | ⟨u', c, rfl⟩
      · rw [List.nil_append] at huv
        subst huv
        intro n rest' hn hspan
        obtain rfl := hp.unique spans (hqp.sub hspan) hn
        exact hm ((hkeep spans).mpr (hq.any_rest hspan t))
      · exact hqp.inside (huv ▸ spans) (by simp) hv
  | passed skips _ ih =>
    exact .passed (fun m rest hm hspan => skips m rest hm (hqp.sub hspan)) ih

end ZigAdvisor.Pattern
