import ZigAdvisor.Proofs.Text.Word

/-!
# Comparing how often two patterns are found

Where every match of one pattern begins with a match of another one, the second pattern occurs in
each text that has the first (`count_pos_of_begins`). The counts themselves need not be ordered,
since a match may swallow two others. They are where matches that overlap end at the same place: a
search then stops at every place where a match may end (`exists_stop`), so the pattern is found at
least as often as any pattern whose matches end with its own (`count_le_of_finishes`). The search
for a whole word is of this kind (`endsTogether_word`).
-/

namespace ZigAdvisor.Pattern

open Text (lastOr)

variable {p q : Pattern} {before : Option CodePoint} {t m rest : Text} {skip offset : ℕ}
  {c : Cursor}

/-- Whether it can be seen from a pattern that it spans no empty text. -/
def consumes : Pattern → Bool
  | lit t => !t.isEmpty
  | one _ => true
  | many _ least _ => 0 < least
  | seq p q => p.consumes || q.consumes
  | alt p q => p.consumes && q.consumes
  | _ => false

theorem ne_nil_of_consumes (hp : p.consumes = true) (h : p.Spans before m rest) : m ≠ [] := by
  induction p generalizing before m rest with
  | lit t =>
    have hm : m = t := h
    simpa [consumes, hm] using hp
  | one s =>
    obtain ⟨c, rfl, -⟩ := h
    exact List.cons_ne_nil _ _
  | many s least most =>
    have hlen : 0 < least := by simpa [consumes] using hp
    exact List.length_pos_iff.mp (hlen.trans_le h.2.1)
  | seq p q ihp ihq =>
    obtain ⟨x, y, rfl, hx, hy⟩ := h
    rw [consumes, Bool.or_eq_true] at hp
    rcases hp with hp | hp
    · exact List.append_ne_nil_of_left_ne_nil (ihp hp hx) _
    · exact List.append_ne_nil_of_right_ne_nil _ (ihq hp hy)
  | alt p q ihp ihq =>
    rw [consumes, Bool.and_eq_true] at hp
    rcases h with h | h
    · exact ihp hp.1 h
    · exact ihq hp.2 h
  | star _ _ | ahead _ _ | notAhead _ _ | notAfter _ | wordEdge | lineStart | lineEnd =>
    exact absurd hp (by simp [consumes])

theorem count_pos_iff_of_consumes (hp : p.consumes = true) :
    0 < p.count t ↔ ∃ a m rest, t = a ++ (m ++ rest) ∧ p.Spans (lastOr none a) m rest := by
  rw [count_pos_iff fun _ _ h => ne_nil_of_consumes hp h rfl, occursIn_iff]

/-! ## Matches of narrower patterns -/

def Narrows (q p : Pattern) : Prop :=
  ∀ before m rest, q.Spans before m rest → p.Spans before m rest

theorem narrows_refl (p : Pattern) : p.Narrows p := fun _ _ _ h => h

theorem Narrows.seq {q' p' : Pattern} (h : q.Narrows p) (h' : q'.Narrows p') :
    (Pattern.seq q q').Narrows (Pattern.seq p p') := by
  rintro before _ rest ⟨x, y, rfl, hx, hy⟩
  exact ⟨x, y, rfl, h _ _ _ hx, h' _ _ _ hy⟩

theorem Narrows.inOrder {qs ps : List Pattern} (h : List.Forall₂ Narrows qs ps) :
    (inOrder qs).Narrows (inOrder ps) := by
  induction h with
  | nil => exact narrows_refl _
  | cons hfirst others ih =>
    cases others with
    | nil => exact hfirst
    | cons _ _ => exact hfirst.seq ih

theorem narrows_many {s : CharSet} {least k k' : ℕ} (h : k ≤ k') :
    (many s least (some k)).Narrows (many s least (some k')) := by
  intro before m rest hspan
  refine ⟨hspan.1, hspan.2.1, ?_⟩
  intro l hl
  have hle := hspan.2.2 k rfl
  obtain rfl := Option.some.inj hl
  exact hle.trans (max_le_max_left least h)

/-! ## Matches that begin with matches -/

def Begins (q p : Pattern) : Prop := ∀ before m rest, q.Spans before m rest →
  ∃ n v, m = n ++ v ∧ p.Spans before n (v ++ rest)

theorem Narrows.begins (h : q.Narrows p) : q.Begins p :=
  fun before m rest hspan => ⟨m, [], (List.append_nil m).symm, h before m rest hspan⟩

theorem begins_seq (p q : Pattern) : (seq p q).Begins p := by
  rintro before _ rest ⟨n, v, rfl, hp, -⟩
  exact ⟨n, v, rfl, hp⟩

theorem Begins.alt {q' p' : Pattern} (h : q.Begins p) (h' : q'.Begins p') :
    (Pattern.alt q q').Begins (Pattern.alt p p') := by
  rintro before m rest (hspan | hspan)
  · obtain ⟨n, v, rfl, hn⟩ := h _ _ _ hspan
    exact ⟨n, v, rfl, Or.inl hn⟩
  · obtain ⟨n, v, rfl, hn⟩ := h' _ _ _ hspan
    exact ⟨n, v, rfl, Or.inr hn⟩

theorem count_pos_of_begins (hq : q.consumes = true) (hp : p.consumes = true) (h : q.Begins p)
    (hcount : 0 < q.count t) : 0 < p.count t := by
  rw [count_pos_iff_of_consumes hq] at hcount
  rw [count_pos_iff_of_consumes hp]
  obtain ⟨a, m, rest, rfl, hspan⟩ := hcount
  obtain ⟨n, v, rfl, hn⟩ := h _ _ _ hspan
  exact ⟨a, n, v ++ rest, by rw [List.append_assoc], hn⟩

/-! ## Matches that end with matches -/

def Finishes (q p : Pattern) : Prop := ∀ before m rest, q.Spans before m rest →
  ∃ u n, m = u ++ n ∧ p.Spans (lastOr before u) n rest

/-- Whether matches that overlap end at the same place. -/
def EndsTogether (p : Pattern) : Prop := ∀ before n behind u m rest,
  p.Spans before n behind → p.Spans (lastOr before u) m rest → n ++ behind = u ++ (m ++ rest) →
    u.length < n.length → n = u ++ m

def stop (p : Pattern) (c : Cursor) : ℕ := ((p.end? c).getD c).offset

theorem stop_eq {d : Cursor} (h : p.end? c = some d) : p.stop c = d.offset := by
  rw [stop, h, Option.getD_some]

/-- A match in `t` that starts at `c`, not before the first `skip` code points have been passed. -/
def Placed (p : Pattern) (skip offset : ℕ) (before : Option CodePoint) (t : Text) (c : Cursor) :
    Prop :=
  ∃ a m rest, t = a ++ (m ++ rest) ∧ skip ≤ a.length ∧ m ≠ [] ∧
    p.Spans (lastOr before a) m rest ∧ p.stop c = offset + a.length + m.length

theorem Placed.cons {skip' : ℕ} {y : CodePoint} (h : p.Placed skip' (offset + 1) (some y) t c)
    (hskip : skip ≤ skip' + 1) : p.Placed skip offset before (y :: t) c := by
  obtain ⟨a, m, rest, rfl, hle, hne, hspan, hstop⟩ := h
  refine ⟨y :: a, m, rest, rfl, ?_, hne, hspan, ?_⟩
  · rw [List.length_cons]
    omega
  · rw [hstop, List.length_cons]
    omega

theorem placed_of_mem_startsFrom (hp : p.consumes = true)
    (hc : c ∈ p.startsFrom skip offset before t) : p.Placed skip offset before t c := by
  induction t generalizing skip offset before with
  | nil => simp [startsFrom] at hc
  | cons y t ih =>
    cases skip with
    | succ skip =>
      rw [startsFrom] at hc
      exact (ih hc).cons le_rfl
    | zero =>
      rw [startsFrom] at hc
      split at hc
      · next d hd =>
        rcases List.mem_cons.mp hc with rfl | hc
        · obtain ⟨m, ⟨hrest, hoffset, -⟩, hspan⟩ := reaches_of_end? hd
          refine ⟨[], m, d.rest, hrest, le_rfl, ne_nil_of_consumes hp hspan, hspan, ?_⟩
          rw [stop_eq hd, hoffset]
          rfl
        · exact (ih hc).cons (Nat.zero_le _)
      · exact (ih hc).cons (Nat.zero_le _)

/-- Later matches end later. -/
theorem pairwise_stop (hp : p.consumes = true) :
    ((p.startsFrom skip offset before t).map p.stop).Pairwise (· < ·) := by
  induction t generalizing skip offset before with
  | nil => simp [startsFrom]
  | cons y t ih =>
    cases skip with
    | succ skip =>
      rw [startsFrom]
      exact ih
    | zero =>
      rw [startsFrom]
      split
      · next d hd =>
        rw [List.map_cons, List.pairwise_cons]
        refine ⟨?_, ih⟩
        intro stop hstop
        obtain ⟨c, hc, rfl⟩ := List.mem_map.mp hstop
        obtain ⟨a, m, behind, -, hskip, hne, -, hc⟩ := placed_of_mem_startsFrom hp hc
        have hpos := List.length_pos_iff.mpr hne
        rw [stop_eq hd, hc]
        omega
      · exact ih

/-- If matches that overlap end together, a search stops wherever a match may end. -/
theorem exists_stop (hp : p.consumes = true) (htogether : p.EndsTogether) {a : Text}
    (ht : t = a ++ (m ++ rest)) (hspan : p.Spans (lastOr before a) m rest)
    (hskip : skip ≤ a.length) :
    ∃ c ∈ p.startsFrom skip offset before t, p.stop c = offset + a.length + m.length := by
  -- The search has not passed the match looked for, and each step keeps that.
  induction t generalizing skip offset before a with
  | nil =>
    obtain ⟨rfl, hm⟩ := List.append_eq_nil_iff.mp ht.symm
    exact absurd (List.append_eq_nil_iff.mp hm).1 (ne_nil_of_consumes hp hspan)
  | cons y t ih =>
    have later {skip' : ℕ} {b : Text} (ha : a = y :: b) (hb : skip' ≤ b.length) :
        ∃ c ∈ p.startsFrom skip' (offset + 1) (some y) t,
          p.stop c = offset + a.length + m.length := by
      subst ha
      have hfound : ∃ c ∈ p.startsFrom skip' (offset + 1) (some y) t,
          p.stop c = offset + 1 + b.length + m.length := ih (List.cons.inj ht).2 hspan hb
      obtain ⟨c, hc, hstop⟩ := hfound
      refine ⟨c, hc, ?_⟩
      rw [hstop, List.length_cons]
      omega
    have atFront (hne : a ≠ []) : ∃ b, a = y :: b := by
      obtain ⟨x, b, rfl⟩ := List.exists_cons_of_ne_nil hne
      exact ⟨b, by rw [(List.cons.inj ht).1]⟩
    cases skip with
    | succ skip =>
      obtain ⟨b, rfl⟩ := atFront (List.ne_nil_of_length_pos (by omega))
      rw [startsFrom]
      exact later rfl (Nat.le_of_succ_le_succ hskip)
    | zero =>
      rw [startsFrom]
      split
      · next d hd =>
        obtain ⟨n, ⟨hrest, hoffset, -⟩, hn⟩ := reaches_of_end? hd
        simp only at hrest hoffset hn
        by_cases hoverlap : a.length < n.length
        · -- The match that is found reaches into the one looked for.
          have hend : n = a ++ m :=
            htogether _ _ _ _ _ _ hn hspan (hrest.symm.trans ht) hoverlap
          refine ⟨_, List.mem_cons_self, ?_⟩
          rw [stop_eq hd, hoffset, hend, List.length_append, Nat.add_assoc]
        · have hpos := List.length_pos_iff.mpr (ne_nil_of_consumes hp hn)
          obtain ⟨b, rfl⟩ := atFront (List.ne_nil_of_length_pos (by omega))
          rw [List.length_cons] at hoverlap
          obtain ⟨c, hc, hstop⟩ := @later (d.offset - offset - 1) b rfl (by omega)
          exact ⟨c, List.mem_cons_of_mem _ hc, hstop⟩
      · next hd =>
        have hne : a ≠ [] := by
          intro hnil
          subst hnil
          exact end?_eq_none_iff.mp hd m rest ht hspan
        obtain ⟨b, rfl⟩ := atFront hne
        exact later rfl (Nat.zero_le _)

def stops (p : Pattern) (t : Text) : List ℕ := (p.starts t).map p.stop

theorem length_stops (p : Pattern) (t : Text) : (p.stops t).length = p.count t := List.length_map _

theorem nodup_stops (hp : p.consumes = true) (t : Text) : (p.stops t).Nodup :=
  (pairwise_stop hp).imp Nat.ne_of_lt

theorem spans_of_mem_stops {n : ℕ} (hp : p.consumes = true) (h : n ∈ p.stops t) :
    ∃ a m rest, t = a ++ (m ++ rest) ∧ m ≠ [] ∧ p.Spans (lastOr none a) m rest ∧
      n = a.length + m.length := by
  obtain ⟨c, hc, rfl⟩ := List.mem_map.mp h
  obtain ⟨a, m, rest, ht, -, hne, hspan, hstop⟩ := placed_of_mem_startsFrom hp hc
  rw [Nat.zero_add] at hstop
  exact ⟨a, m, rest, ht, hne, hspan, hstop⟩

theorem mem_stops {a : Text} (hp : p.consumes = true) (htogether : p.EndsTogether)
    (hspan : p.Spans (lastOr none a) m rest) :
    a.length + m.length ∈ p.stops (a ++ (m ++ rest)) := by
  have hstop : ∃ c ∈ p.starts (a ++ (m ++ rest)), p.stop c = 0 + a.length + m.length :=
    exists_stop hp htogether rfl hspan (Nat.zero_le _)
  rw [Nat.zero_add] at hstop
  exact List.mem_map.mpr hstop

/-- A pattern is found at least as often as those matches of another one that end with its own, if
its own end together where they overlap. -/
theorem countP_stops_le {keep : ℕ → Bool} (hq : q.consumes = true) (hp : p.consumes = true)
    (htogether : p.EndsTogether)
    (h : ∀ a m rest, t = a ++ (m ++ rest) → q.Spans (lastOr none a) m rest →
      keep (a.length + m.length) = true → ∃ u n, m = u ++ n ∧
        p.Spans (lastOr (lastOr none a) u) n rest) :
    (q.stops t).countP keep ≤ p.count t := by
  -- Two matches may start at different places, so their ends are what is compared.
  have hsubset : (q.stops t).filter keep ⊆ p.stops t := by
    intro stop hstop
    obtain ⟨hstop, hkeep⟩ := List.mem_filter.mp hstop
    obtain ⟨a, m, rest, ht, -, hspan, rfl⟩ := spans_of_mem_stops hq hstop
    obtain ⟨u, n, rfl, hn⟩ := h a m rest ht hspan hkeep
    rw [← Text.lastOr_append] at hn
    have hend := mem_stops hp htogether hn
    rw [List.length_append, Nat.add_assoc, ← List.length_append] at hend
    simpa only [ht, List.append_assoc] using hend
  have hlen := (List.subperm_of_subset ((nodup_stops hq t).filter keep) hsubset).length_le
  rwa [← List.countP_eq_length_filter, length_stops] at hlen

/-- A pattern is found at least as often as one whose matches end with its own, if its own end
together where they overlap. -/
theorem count_le_of_finishes (hq : q.consumes = true) (hp : p.consumes = true)
    (htogether : p.EndsTogether) (h : q.Finishes p) (t : Text) : q.count t ≤ p.count t := by
  rw [← length_stops q, ← List.countP_true]
  exact countP_stops_le hq hp htogether fun _ _ _ _ hspan _ => h _ _ _ hspan

/-- Patterns with the same matches are found equally often, whichever they try first, if these end
together where they overlap. -/
theorem count_eq_of_spans (hq : q.consumes = true) (hp : p.consumes = true)
    (htogether : p.EndsTogether)
    (h : ∀ before m rest, q.Spans before m rest ↔ p.Spans before m rest) (t : Text) :
    q.count t = p.count t := by
  have htogether' : q.EndsTogether := fun before n behind u m rest hn hm =>
    htogether before n behind u m rest ((h _ _ _).mp hn) ((h _ _ _).mp hm)
  apply Nat.le_antisymm
  · exact count_le_of_finishes hq hp htogether
      (fun before m rest hspan => ⟨[], m, rfl, (h _ _ _).mp hspan⟩) t
  · exact count_le_of_finishes hp hq htogether'
      (fun before m rest hspan => ⟨[], m, rfl, (h _ _ _).mpr hspan⟩) t

/-! ## Whole words -/

section

open Text

variable {s : String}

theorem isName_of_spans_lit (hs : IsName (ofString s)) {before : Option CodePoint} {m rest : Text}
    (h : (lit (ofString s)).Spans before m rest) : IsName m := by
  have hm : m = ofString s := h
  exact hm ▸ hs

theorem spans_word (hs : IsName (ofString s)) {before : Option CodePoint} {m rest : Text} :
    (word s).Spans before m rest ↔
      m = ofString s ∧ ¬ AfterWord before ∧ ¬ AfterWord rest.head? :=
  spans_wholeWord (isName_of_spans_lit hs)

theorem endsTogether_wholeWord
    (hp : ∀ {before m rest}, p.Spans before m rest → IsName m) :
    (seq wordEdge (seq p wordEdge)).EndsTogether := by
  intro before n behind u m rest hn hm heq hlt
  obtain ⟨hpn, -, hbehind⟩ := (spans_wholeWord hp).mp hn
  obtain ⟨hpm, hbefore, hrest⟩ := (spans_wholeWord hp).mp hm
  by_cases hu : u = []
  · subst hu
    exact (hp hpn).unique (hp hpm) hbehind hrest heq
  · -- Inside a word no other whole word begins.
    have hfront : u <+: n := by
      apply List.prefix_of_prefix_length_le _ (List.prefix_append n behind) hlt.le
      rw [heq]
      exact List.prefix_append u _
    have hname : IsName u := ⟨hu, fun c hc => (hp hpn).2 c (hfront.subset hc)⟩
    exact absurd hname.afterWord hbefore

theorem endsTogether_word (hs : IsName (ofString s)) : (word s).EndsTogether :=
  endsTogether_wholeWord (isName_of_spans_lit hs)

theorem count_word_pos_iff (hs : IsName (ofString s)) :
    0 < (word s).count t ↔ HasWord (ofString s) t := by
  have hconsumes : (word s).consumes = true := by
    simp [word, inOrder, consumes, hs.1]
  rw [count_pos_iff_of_consumes hconsumes]
  constructor
  · rintro ⟨a, m, rest, rfl, hspan⟩
    obtain ⟨rfl, houtside⟩ := (spans_word hs).mp hspan
    exact ⟨a, rest, rfl, houtside⟩
  · rintro ⟨a, rest, rfl, houtside⟩
    exact ⟨a, _, rest, rfl, (spans_word hs).mpr ⟨rfl, houtside⟩⟩

end

end ZigAdvisor.Pattern
