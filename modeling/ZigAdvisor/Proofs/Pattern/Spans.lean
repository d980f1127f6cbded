import Mathlib.Tactic
import ZigAdvisor.Pattern.Search

/-!
# What a pattern spans

`Pattern.Spans p before m rest` says that `p` matches the text `m` where `before` stands in front
of it and `rest` behind it. The ends of a pattern at a cursor are exactly the ends of the texts it
spans there (`mem_ends`), so a pattern occurs in a text exactly if it spans a part of it.
-/

namespace ZigAdvisor

def Text.lastOr : Option CodePoint → Text → Option CodePoint
  | before, [] => before
  | _, c :: m => lastOr (some c) m

namespace Text

variable {before : Option CodePoint}

@[simp] theorem lastOr_nil : lastOr before [] = before := rfl

@[simp] theorem lastOr_cons (c : CodePoint) (m : Text) :
    lastOr before (c :: m) = lastOr (some c) m := rfl

theorem lastOr_append (m n : Text) : lastOr before (m ++ n) = lastOr (lastOr before m) n := by
  induction m generalizing before with
  | nil => rfl
  | cons c m ih => exact ih

theorem lastOr_eq_of_ne_nil {before' : Option CodePoint} {m : Text} (h : m ≠ []) :
    lastOr before m = lastOr before' m := by
  obtain ⟨c, m, rfl⟩ := List.exists_cons_of_ne_nil h
  rfl

@[simp] theorem lastOr_concat (m : Text) (c : CodePoint) : lastOr before (m ++ [c]) = some c := by
  rw [lastOr_append, lastOr_cons, lastOr_nil]

end Text

def Cursor.Leads (c : Cursor) (m : Text) (d : Cursor) : Prop :=
  c.rest = m ++ d.rest ∧ d.offset = c.offset + m.length ∧ d.before = Text.lastOr c.before m

namespace Cursor

variable {c d : Cursor} {s : CharSet}

theorem leads_nil : c.Leads [] d ↔ d = c := by
  obtain ⟨_, _, _⟩ := c
  obtain ⟨_, _, _⟩ := d
  simp only [Leads, List.nil_append, List.length_nil, Nat.add_zero, Text.lastOr_nil, mk.injEq]
  tauto

theorem leads_cons {x : CodePoint} {m : Text} :
    c.Leads (x :: m) d ↔
      ∃ rest, c.rest = x :: rest ∧ (Cursor.mk (c.offset + 1) (some x) rest).Leads m d := by
  constructor
  · rintro ⟨hrest, hoffset, hbefore⟩
    refine ⟨m ++ d.rest, hrest, rfl, ?_, hbefore⟩
    simp only [hoffset, List.length_cons]
    omega
  · rintro ⟨rest, hrest, hm, hoffset, hbefore⟩
    refine ⟨by rw [hrest, List.cons_append]; exact congrArg _ hm, ?_, hbefore⟩
    simp only [hoffset, List.length_cons]
    omega

theorem leads_cons_cons {offset : Nat} {before : Option CodePoint} {y z : CodePoint}
    {rest m : Text} : (Cursor.mk offset before (y :: rest)).Leads (z :: m) d ↔
      z = y ∧ (Cursor.mk (offset + 1) (some y) rest).Leads m d := by
  rw [leads_cons]
  constructor
  · rintro ⟨rest', hrest, hm⟩
    obtain ⟨rfl, rfl⟩ := List.cons.inj hrest
    exact ⟨rfl, hm⟩
  · rintro ⟨rfl, hm⟩
    exact ⟨rest, rfl, hm⟩

/-- At the end of a text, a cursor goes nowhere. -/
theorem Leads.eq_nil {m : Text} (h : c.Leads m d) (hc : c.rest = []) : m = [] := by
  have hrest := h.1
  rw [hc] at hrest
  exact (List.append_eq_nil_iff.mp hrest.symm).1

theorem leads_append {m n : Text} :
    c.Leads (m ++ n) d ↔ ∃ e, c.Leads m e ∧ e.Leads n d := by
  induction m generalizing c with
  | nil =>
    constructor
    · intro h
      exact ⟨c, leads_nil.mpr rfl, h⟩
    · rintro ⟨e, he, h⟩
      rw [leads_nil] at he
      exact he ▸ h
  | cons x m ih =>
    simp only [List.cons_append, leads_cons, ih]
    constructor
    · rintro ⟨rest, hrest, e, he, h⟩
      exact ⟨e, ⟨rest, hrest, he⟩, h⟩
    · rintro ⟨e, ⟨rest, hrest, he⟩, h⟩
      exact ⟨rest, hrest, e, he, h⟩

theorem past?_eq_some {t : Text} : c.past? t = some d ↔ c.Leads t d := by
  induction t generalizing c with
  | nil => simp only [past?, Option.some.injEq, leads_nil, eq_comm]
  | cons x t ih =>
    obtain ⟨offset, before, rest⟩ := c
    cases rest with
    | nil => simp [past?, leads_cons]
    | cons y rest =>
      simp only [past?, leads_cons, List.cons.injEq]
      by_cases hx : x = y
      · subst hx
        rw [if_pos rfl, ih]
        constructor
        · intro h
          exact ⟨rest, ⟨rfl, rfl⟩, h⟩
        · rintro ⟨_, ⟨-, rfl⟩, h⟩
          exact h
      · simp only [if_neg hx, reduceCtorEq, false_iff]
        rintro ⟨_, ⟨h, -⟩, -⟩
        exact hx h.symm

theorem skip?_eq_some {n : Nat} :
    c.skip? s n = some d ↔ ∃ m, c.Leads m d ∧ (∀ x ∈ m, s.mem x) ∧ m.length = n := by
  induction n generalizing c with
  | zero =>
    simp only [skip?, Option.some.injEq, List.length_eq_zero_iff]
    constructor
    · intro h
      exact ⟨[], leads_nil.mpr h.symm, by simp⟩
    · rintro ⟨m, hm, -, rfl⟩
      exact (leads_nil.mp hm).symm
  | succ n ih =>
    obtain ⟨offset, before, rest⟩ := c
    cases rest with
    | nil =>
      simp only [skip?, reduceCtorEq, false_iff]
      rintro ⟨m, hm, -, hlen⟩
      rw [hm.eq_nil rfl] at hlen
      cases hlen
    | cons y rest =>
      have key : (∃ m, (Cursor.mk offset before (y :: rest)).Leads m d ∧ (∀ x ∈ m, s.mem x) ∧
            m.length = n + 1) ↔
          s.mem y ∧ ∃ m, (Cursor.mk (offset + 1) (some y) rest).Leads m d ∧ (∀ x ∈ m, s.mem x) ∧
            m.length = n := by
        constructor
        · rintro ⟨_ | ⟨z, m⟩, hm, hall, hlen⟩
          · simp at hlen
          · obtain ⟨rfl, hm⟩ := leads_cons_cons.mp hm
            rw [List.forall_mem_cons] at hall
            exact ⟨hall.1, m, hm, hall.2, by simpa using hlen⟩
        · rintro ⟨hy, m, hm, hall, hlen⟩
          exact ⟨y :: m, leads_cons_cons.mpr ⟨rfl, hm⟩, List.forall_mem_cons.mpr ⟨hy, hall⟩,
            by simpa using hlen⟩
      rw [key, ← ih, skip?]
      by_cases hy : s.mem y = true
      · simp [hy]
      · simp [hy]

/-- A repetition that goes on may go one less far behind the first code point. -/
theorem length_cons_le_most_iff {most : Option Nat} {y : CodePoint} {m : Text}
    (h : most ≠ some 0) : (∀ k, most = some k → (y :: m).length ≤ k) ↔
      ∀ k, most.map (· - 1) = some k → m.length ≤ k := by
  cases most with
  | none => simp
  | some j =>
    have hj : j ≠ 0 := fun hj => h (hj ▸ rfl)
    simp only [Option.map_some, Option.some.injEq, forall_eq', List.length_cons]
    omega

/-- A cursor is among its own stops. -/
theorem stop_here {most : Option Nat} (h : d = c) :
    ∃ m, c.Leads m d ∧ (∀ x ∈ m, s.mem x) ∧ ∀ k, most = some k → m.length ≤ k :=
  ⟨[], leads_nil.mpr h, by simp⟩

theorem mem_stops {most : Option Nat} {offset : Nat} {before : Option CodePoint} {rest : Text}
    {nearer : List Cursor} :
    d ∈ stops s most offset before rest nearer ↔
      d ∈ nearer ∨ ∃ m, (Cursor.mk offset before rest).Leads m d ∧ (∀ x ∈ m, s.mem x) ∧
        ∀ k, most = some k → m.length ≤ k := by
  induction rest generalizing most offset before nearer with
  | nil =>
    rw [stops, List.mem_cons, or_comm]
    refine or_congr_right ⟨stop_here, ?_⟩
    rintro ⟨m, hm, -, -⟩
    obtain rfl := hm.eq_nil rfl
    exact leads_nil.mp hm
  | cons y rest ih =>
    rw [stops]
    split_ifs with h
    · rw [ih, List.mem_cons]
      constructor
      · rintro ((hd | hd) | ⟨m, hm, hall, hlen⟩)
        · exact Or.inr (stop_here hd)
        · exact Or.inl hd
        · exact Or.inr ⟨y :: m, leads_cons_cons.mpr ⟨rfl, hm⟩,
            List.forall_mem_cons.mpr ⟨h.2, hall⟩, (length_cons_le_most_iff h.1).mpr hlen⟩
      · rintro (hd | ⟨_ | ⟨z, m⟩, hm, hall, hlen⟩)
        · exact Or.inl (Or.inr hd)
        · exact Or.inl (Or.inl (leads_nil.mp hm))
        · obtain ⟨rfl, hm⟩ := leads_cons_cons.mp hm
          rw [List.forall_mem_cons] at hall
          exact Or.inr ⟨m, hm, hall.2, (length_cons_le_most_iff h.1).mp hlen⟩
    · rw [List.mem_cons, or_comm]
      refine or_congr_right ⟨stop_here, ?_⟩
      rintro ⟨_ | ⟨z, m⟩, hm, hall, hlen⟩
      · exact leads_nil.mp hm
      · obtain ⟨rfl, -⟩ := leads_cons_cons.mp hm
        refine absurd ⟨?_, (List.forall_mem_cons.mp hall).1⟩ h
        intro hmost
        have := hlen 0 hmost
        simp at this

end Cursor

namespace CharSet

variable {c : CodePoint} {t : Text}

theorem mem_of : (of t).mem c = true ↔ c ∈ t := by
  simp [mem, of, CharClass.mem]

theorem mem_blank : blank.mem c = c.isBlank := by
  simp [mem, blank, CharClass.mem]

theorem mem_word : word.mem c = c.isWord := by
  simp [mem, word, CharClass.mem]

end CharSet

namespace Pattern

inductive Rounds (round : Option CodePoint → Text → Text → Prop) :
    Option CodePoint → Text → Text → Prop
  | none {before rest} : Rounds round before [] rest
  | next {before m n rest} (hm : m ≠ []) (first : round before m (n ++ rest))
      (others : Rounds round (Text.lastOr before m) n rest) : Rounds round before (m ++ n) rest

/-- Whether the pattern matches `m` where `before` stands in front of it and `rest` behind it. -/
def Spans : Pattern → (before : Option CodePoint) → (m rest : Text) → Prop
  | lit t, _, m, _ => m = t
  | one s, _, m, _ => ∃ c, m = [c] ∧ s.mem c
  | many s least most, _, m, _ =>
    (∀ c ∈ m, s.mem c) ∧ least ≤ m.length ∧ ∀ k, most = some k → m.length ≤ max least k
  | seq p q, before, m, rest =>
    ∃ x y, m = x ++ y ∧ p.Spans before x (y ++ rest) ∧ q.Spans (Text.lastOr before x) y rest
  | alt p q, before, m, rest => p.Spans before m rest ∨ q.Spans before m rest
  | star p, before, m, rest => Rounds p.Spans before m rest
  | ahead p, before, m, rest => m = [] ∧ ∃ x y, rest = x ++ y ∧ p.Spans before x y
  | notAhead p, before, m, rest => m = [] ∧ ∀ x y, rest = x ++ y → ¬ p.Spans before x y
  | notAfter s, before, m, _ => m = [] ∧ before.any s.mem = false
  | wordEdge, before, m, rest =>
    m = [] ∧ before.any CodePoint.isWord ≠ rest.head?.any CodePoint.isWord
  | lineStart, before, m, _ => m = [] ∧ before.all (· == ('\n' : CodePoint))
  | lineEnd, _, m, rest => m = [] ∧ rest.head?.all (· == ('\n' : CodePoint))

def Reaches (spans : Option CodePoint → Text → Text → Prop) (c d : Cursor) : Prop :=
  ∃ m, c.Leads m d ∧ spans c.before m d.rest

theorem reaches_of_empty {condition : Option CodePoint → Text → Prop} {c d : Cursor} :
    Reaches (fun before m rest => m = [] ∧ condition before rest) c d ↔
      condition c.before c.rest ∧ d = c := by
  constructor
  · rintro ⟨m, hm, rfl, h⟩
    obtain rfl := Cursor.leads_nil.mp hm
    exact ⟨h, rfl⟩
  · rintro ⟨h, rfl⟩
    exact ⟨[], Cursor.leads_nil.mpr rfl, rfl, h⟩

/-- A condition on what stands around a place leads nowhere else. -/
theorem mem_ite_iff_reaches {condition : Option CodePoint → Text → Prop} {holds : Prop}
    [Decidable holds] {c d : Cursor} (h : holds ↔ condition c.before c.rest) :
    d ∈ (if holds then [c] else []) ↔
      Reaches (fun before m rest => m = [] ∧ condition before rest) c d := by
  rw [reaches_of_empty, ← h]
  split_ifs with hholds
  · rw [List.mem_singleton, and_iff_right hholds]
  · simp [hholds]

theorem reaches_rounds_self {spans : Option CodePoint → Text → Text → Prop} {c d : Cursor}
    (h : d = c) : Reaches (Rounds spans) c d := ⟨[], Cursor.leads_nil.mpr h, .none⟩

theorem mem_rounds {step : Cursor → List Cursor} {spans : Option CodePoint → Text → Text → Prop}
    (hstep : ∀ c d, d ∈ step c ↔ Reaches spans c d) {fuel : Nat} {c d : Cursor}
    (hfuel : c.rest.length ≤ fuel) :
    d ∈ Cursor.rounds step fuel c ↔ Reaches (Rounds spans) c d := by
  induction fuel generalizing c with
  | zero =>
    have hnil : c.rest = [] := List.length_eq_zero_iff.mp (Nat.le_zero.mp hfuel)
    rw [Cursor.rounds, List.mem_singleton]
    refine ⟨reaches_rounds_self, ?_⟩
    rintro ⟨m, hm, -⟩
    obtain rfl := hm.eq_nil hnil
    exact Cursor.leads_nil.mp hm
  | succ fuel ih =>
    simp only [Cursor.rounds, List.mem_append, List.mem_flatMap, List.mem_filter,
      List.mem_singleton, decide_eq_true_eq, hstep]
    constructor
    · rintro (⟨e, ⟨⟨m, hm, hspan⟩, hlt⟩, hd⟩ | hd)
      · have hne : m ≠ [] := by
          rintro rfl
          have := hm.2.1
          simp only [List.length_nil] at this
          omega
        have hlen : e.rest.length ≤ fuel := by
          have := congrArg List.length hm.1
          have := List.length_pos_iff.mpr hne
          rw [List.length_append] at *
          omega
        obtain ⟨n, hn, hrounds⟩ := (ih hlen).mp hd
        refine ⟨m ++ n, Cursor.leads_append.mpr ⟨e, hm, hn⟩, .next hne ?_ ?_⟩
        · rwa [← hn.1]
        · rwa [← hm.2.2]
      · exact reaches_rounds_self hd
    · rintro ⟨k, hk, hrounds⟩
      cases hrounds with
      | none => exact Or.inr (Cursor.leads_nil.mp hk)
      | @next _ m n _ hne first others =>
        obtain ⟨e, hm, hn⟩ := Cursor.leads_append.mp hk
        have hpos := List.length_pos_iff.mpr hne
        have hlen : e.rest.length ≤ fuel := by
          have := congrArg List.length hm.1
          rw [List.length_append] at this
          omega
        refine Or.inl ⟨e, ⟨⟨m, hm, by rwa [hn.1]⟩, by have := hm.2.1; omega⟩, ?_⟩
        refine (ih hlen).mpr ⟨n, hn, ?_⟩
        rwa [hm.2.2]

theorem ends_eq_nil_iff {p : Pattern} (hp : ∀ {c d}, d ∈ p.ends c ↔ Reaches p.Spans c d)
    {c : Cursor} : p.ends c = [] ↔ ∀ x y, c.rest = x ++ y → ¬ p.Spans c.before x y := by
  simp only [List.eq_nil_iff_forall_not_mem, hp]
  constructor
  · intro h x y hxy hspan
    exact h ⟨c.offset + x.length, Text.lastOr c.before x, y⟩ ⟨x, ⟨hxy, rfl, rfl⟩, hspan⟩
  · rintro h d ⟨m, hm, hspan⟩
    exact h m d.rest hm.1 hspan

theorem mem_ends_one {s : CharSet} {c d : Cursor} :
    d ∈ (one s).ends c ↔ Reaches (one s).Spans c d := by
  obtain ⟨offset, before, rest⟩ := c
  cases rest with
  | nil =>
    simp only [ends, List.not_mem_nil, false_iff]
    rintro ⟨m, hm, x, rfl, -⟩
    cases hm.eq_nil rfl
  | cons y rest =>
    have key : Reaches (one s).Spans ⟨offset, before, y :: rest⟩ d ↔
        s.mem y ∧ d = ⟨offset + 1, some y, rest⟩ := by
      constructor
      · rintro ⟨m, hm, x, rfl, hx⟩
        obtain ⟨rfl, hm⟩ := Cursor.leads_cons_cons.mp hm
        exact ⟨hx, Cursor.leads_nil.mp hm⟩
      · rintro ⟨hy, hd⟩
        exact ⟨[y], Cursor.leads_cons_cons.mpr ⟨rfl, Cursor.leads_nil.mpr hd⟩, y, rfl, hy⟩
    rw [key, ends]
    by_cases hy : s.mem y = true
    · simp [hy]
    · simp [hy]

/-- The code points that a repetition must have are skipped, and the others may end anywhere. -/
theorem mem_ends_many {s : CharSet} {least : Nat} {most : Option Nat} {c d : Cursor} :
    d ∈ (many s least most).ends c ↔ Reaches (many s least most).Spans c d := by
  have key : d ∈ (many s least most).ends c ↔ ∃ e, c.skip? s least = some e ∧
      d ∈ Cursor.stops s (most.map (· - least)) e.offset e.before e.rest [] := by
    rw [ends]
    cases c.skip? s least with
    | none => simp
    | some e => simp
  simp only [key, Cursor.skip?_eq_some, Cursor.mem_stops, List.not_mem_nil, false_or]
  constructor
  · rintro ⟨e, ⟨m, hm, hall, rfl⟩, n, hn, hall', hlen⟩
    refine ⟨m ++ n, Cursor.leads_append.mpr ⟨e, hm, hn⟩, ?_, ?_, ?_⟩
    · exact List.forall_mem_append.mpr ⟨hall, hall'⟩
    · rw [List.length_append]
      omega
    · rintro k rfl
      have := hlen (k - m.length) rfl
      rw [List.length_append]
      omega
  · rintro ⟨k, hk, hall, hleast, hmost⟩
    rw [← List.take_append_drop least k] at hk hall
    obtain ⟨e, hm, hn⟩ := Cursor.leads_append.mp hk
    rw [List.forall_mem_append] at hall
    refine ⟨e, ⟨_, hm, hall.1, by rw [List.length_take]; omega⟩, _, hn, hall.2, ?_⟩
    intro j hj
    obtain ⟨i, rfl, rfl⟩ := Option.map_eq_some_iff.mp hj
    have := hmost i rfl
    rw [List.length_drop]
    omega

/-- The ends of a pattern are the ends of the texts it spans. -/
theorem mem_ends {p : Pattern} {c d : Cursor} : d ∈ p.ends c ↔ Reaches p.Spans c d := by
  induction p generalizing c d with
  | lit t =>
    simp only [ends, Option.mem_toList, Cursor.past?_eq_some, Reaches, Spans]
    exact ⟨fun h => ⟨t, h, rfl⟩, by rintro ⟨m, h, rfl⟩; exact h⟩
  | one s => exact mem_ends_one
  | many s least most => exact mem_ends_many
  | seq p q ihp ihq =>
    simp only [ends, List.mem_flatMap, ihp, ihq]
    constructor
    · rintro ⟨e, ⟨x, hx, hp⟩, y, hy, hq⟩
      refine ⟨x ++ y, Cursor.leads_append.mpr ⟨e, hx, hy⟩, x, y, rfl, ?_, ?_⟩
      · rwa [← hy.1]
      · rwa [← hx.2.2]
    · rintro ⟨_, hm, x, y, rfl, hp, hq⟩
      obtain ⟨e, hx, hy⟩ := Cursor.leads_append.mp hm
      refine ⟨e, ⟨x, hx, by rwa [hy.1]⟩, y, hy, ?_⟩
      rwa [hx.2.2]
  | alt p q ihp ihq =>
    simp only [ends, List.mem_append, ihp, ihq, Reaches, Spans, and_or_left, exists_or]
  | star p ih => exact mem_rounds (fun c d => ih) le_rfl
  | ahead p ih =>
    have key : ¬ (p.ends c).isEmpty = true ↔ ∃ x y, c.rest = x ++ y ∧ p.Spans c.before x y := by
      rw [List.isEmpty_iff, ends_eq_nil_iff ih]
      push Not
      rfl
    rw [ends, ← ite_not]
    exact mem_ite_iff_reaches key
  | notAhead p ih =>
    have key : (p.ends c).isEmpty = true ↔ ∀ x y, c.rest = x ++ y → ¬ p.Spans c.before x y := by
      rw [List.isEmpty_iff, ends_eq_nil_iff ih]
    rw [ends]
    exact mem_ite_iff_reaches key
  | notAfter s =>
    rw [ends, ← ite_not]
    exact mem_ite_iff_reaches (Bool.not_eq_true _).to_iff
  | wordEdge =>
    rw [ends]
    exact mem_ite_iff_reaches bne_iff_ne
  | lineStart =>
    rw [ends]
    exact mem_ite_iff_reaches Iff.rfl
  | lineEnd =>
    rw [ends]
    exact mem_ite_iff_reaches Iff.rfl

theorem end?_eq_none_iff {p : Pattern} {c : Cursor} :
    p.end? c = none ↔ ∀ x y, c.rest = x ++ y → ¬ p.Spans c.before x y := by
  rw [end?, List.head?_eq_none_iff, ends_eq_nil_iff mem_ends]

theorem reaches_of_end? {p : Pattern} {c d : Cursor} (h : p.end? c = some d) :
    Reaches p.Spans c d :=
  mem_ends.mp (List.mem_of_head? h)

/-- Where a pattern ends nowhere, it occurs only behind the next code point. -/
theorem exists_spans_cons {p : Pattern} {offset : Nat} {before : Option CodePoint} {y : CodePoint}
    {t : Text} (h : p.end? ⟨offset, before, y :: t⟩ = none) :
    (∃ a m rest, y :: t = a ++ (m ++ rest) ∧ p.Spans (Text.lastOr before a) m rest) ↔
      ∃ a m rest, t = a ++ (m ++ rest) ∧ p.Spans (Text.lastOr (some y) a) m rest := by
  constructor
  · rintro ⟨_ | ⟨x, a⟩, m, rest, ht, hspan⟩
    · exact absurd hspan (end?_eq_none_iff.mp h m rest ht)
    · obtain ⟨rfl, rfl⟩ := List.cons.inj ht
      exact ⟨a, m, rest, rfl, hspan⟩
  · rintro ⟨a, m, rest, rfl, hspan⟩
    exact ⟨y :: a, m, rest, rfl, hspan⟩

theorem isSome_findFrom {p : Pattern} {offset : Nat} {before : Option CodePoint} {t : Text} :
    (p.findFrom offset before t).isSome ↔
      ∃ a m rest, t = a ++ (m ++ rest) ∧ p.Spans (Text.lastOr before a) m rest := by
  induction t generalizing offset before with
  | nil =>
    rw [findFrom, Option.isSome_iff_ne_none, Ne, end?_eq_none_iff]
    push Not
    constructor
    · rintro ⟨m, rest, ht, h⟩
      exact ⟨[], m, rest, ht, h⟩
    · rintro ⟨a, m, rest, ht, h⟩
      obtain ⟨rfl, hm⟩ := List.append_eq_nil_iff.mp ht.symm
      exact ⟨m, rest, hm.symm, h⟩
  | cons y t ih =>
    rw [findFrom]
    split
    · next e he =>
      obtain ⟨m, hm, h⟩ := reaches_of_end? he
      exact iff_of_true rfl ⟨[], m, e.rest, hm.1, h⟩
    · next he => rw [ih, exists_spans_cons he]

/-- A pattern occurs in a text exactly if it spans a part of it. -/
theorem occursIn_iff {p : Pattern} {t : Text} :
    p.occursIn t ↔ ∃ a m rest, t = a ++ (m ++ rest) ∧ p.Spans (Text.lastOr none a) m rest :=
  isSome_findFrom

/-- The end that a search gives belongs to a part that is spanned, and no other one starts before
it. -/
theorem findFrom_eq_some {p : Pattern} {offset : Nat} {before : Option CodePoint} {t : Text}
    {e : Cursor} (h : p.findFrom offset before t = some e) :
    ∃ a m, t = a ++ (m ++ e.rest) ∧ p.Spans (Text.lastOr before a) m e.rest ∧
      ∀ b n rest, t = b ++ (n ++ rest) → p.Spans (Text.lastOr before b) n rest → a <+: b := by
  induction t generalizing offset before with
  | nil =>
    obtain ⟨m, hm, hspan⟩ := reaches_of_end? h
    exact ⟨[], m, hm.1, hspan, fun b _ _ _ _ => List.nil_prefix⟩
  | cons y t ih =>
    rw [findFrom] at h
    split at h
    · next e' he =>
      obtain rfl := Option.some.inj h
      obtain ⟨m, hm, hspan⟩ := reaches_of_end? he
      exact ⟨[], m, hm.1, hspan, fun b _ _ _ _ => List.nil_prefix⟩
    · next he =>
      obtain ⟨a, m, rfl, hspan, hfirst⟩ := ih h
      refine ⟨y :: a, m, rfl, hspan, fun b n rest ht hother => ?_⟩
      cases b with
      | nil => exact absurd hother (end?_eq_none_iff.mp he n rest ht)
      | cons z b =>
        obtain ⟨rfl, hb⟩ := List.cons.inj ht
        exact List.cons_prefix_cons.mpr ⟨rfl, hfirst b n rest hb hother⟩

theorem find?_eq_some {p : Pattern} {t : Text} {e : Cursor} (h : p.find? t = some e) :
    ∃ a m, t = a ++ (m ++ e.rest) ∧ p.Spans (Text.lastOr none a) m e.rest ∧
      ∀ b n rest, t = b ++ (n ++ rest) → p.Spans (Text.lastOr none b) n rest → a <+: b :=
  findFrom_eq_some h

theorem startsFrom_ne_nil {p : Pattern} (hp : ∀ before rest, ¬ p.Spans before [] rest)
    {offset : Nat} {before : Option CodePoint} {t : Text} :
    p.startsFrom 0 offset before t ≠ [] ↔
      ∃ a m rest, t = a ++ (m ++ rest) ∧ p.Spans (Text.lastOr before a) m rest := by
  induction t generalizing offset before with
  | nil =>
    simp only [startsFrom, ne_eq, not_true_eq_false, false_iff]
    rintro ⟨a, m, rest, ht, h⟩
    obtain ⟨rfl, hm⟩ := List.append_eq_nil_iff.mp ht.symm
    obtain ⟨rfl, rfl⟩ := List.append_eq_nil_iff.mp hm
    exact hp _ _ h
  | cons y t ih =>
    rw [startsFrom]
    split
    · next e he =>
      obtain ⟨m, hm, h⟩ := reaches_of_end? he
      exact iff_of_true (List.cons_ne_nil _ _) ⟨[], m, e.rest, hm.1, h⟩
    · next he => rw [ih, exists_spans_cons he]

/-- A pattern that spans no empty text is counted at least once exactly if it occurs. -/
theorem count_pos_iff {p : Pattern} (hp : ∀ before rest, ¬ p.Spans before [] rest) {t : Text} :
    0 < p.count t ↔ p.occursIn t := by
  rw [occursIn_iff, count, starts, List.length_pos_iff, startsFrom_ne_nil hp]

theorem spans_wordEdge_seq {q : Pattern} {before : Option CodePoint} {m rest : Text} :
    (seq wordEdge q).Spans before m rest ↔
      before.any CodePoint.isWord ≠ (m ++ rest).head?.any CodePoint.isWord ∧
        q.Spans before m rest := by
  constructor
  · rintro ⟨x, y, rfl, ⟨rfl, hedge⟩, hq⟩
    exact ⟨hedge, hq⟩
  · rintro ⟨hedge, hq⟩
    exact ⟨[], m, rfl, ⟨rfl, hedge⟩, hq⟩

theorem spans_lit_seq {t : Text} {q : Pattern} {before : Option CodePoint} {m rest : Text} :
    (seq (lit t) q).Spans before m rest ↔
      ∃ n, m = t ++ n ∧ q.Spans (Text.lastOr before t) n rest := by
  constructor
  · rintro ⟨_, n, rfl, rfl, hq⟩
    exact ⟨n, rfl, hq⟩
  · rintro ⟨n, rfl, hq⟩
    exact ⟨t, n, rfl, rfl, hq⟩

theorem spans_blanks {before : Option CodePoint} {m rest : Text} :
    blanks.Spans before m rest ↔ ∀ c ∈ m, c.isBlank = true := by
  simp [blanks, Spans, CharSet.mem_blank]

theorem spans_gap {before : Option CodePoint} {m rest : Text} :
    gap.Spans before m rest ↔ m ≠ [] ∧ ∀ c ∈ m, c.isBlank = true := by
  simp [gap, Spans, CharSet.mem_blank, Nat.one_le_iff_ne_zero, and_comm]

theorem spans_name {before : Option CodePoint} {m rest : Text} :
    name.Spans before m rest ↔ m ≠ [] ∧ ∀ c ∈ m, c.isWord = true := by
  simp [name, Spans, CharSet.mem_word, Nat.one_le_iff_ne_zero, and_comm]

theorem spans_anyOf {words : List String} {before : Option CodePoint} {m rest : Text} :
    (anyOf (words.map fun w => lit (.ofString w))).Spans before m rest ↔
      ∃ w ∈ words, m = Text.ofString w := by
  induction words with
  | nil => simp [anyOf, Spans, CharSet.mem]
  | cons w words ih =>
    rw [List.exists_mem_cons_iff, ← ih]
    cases words with
    | nil => simp [anyOf, Spans, CharSet.mem]
    | cons v words => rfl

/-- Blanks and the parenthesis that opens the arguments. -/
theorem spans_opening {before : Option CodePoint} {m rest : Text} :
    (seq blanks (lit "(")).Spans before m rest ↔
      ∃ blank : Text, (∀ c ∈ blank, c.isBlank = true) ∧ m = blank ++ [('(' : CodePoint)] := by
  constructor
  · rintro ⟨x, y, rfl, hx, rfl⟩
    exact ⟨x, spans_blanks.mp hx, rfl⟩
  · rintro ⟨x, hx, rfl⟩
    exact ⟨x, _, rfl, spans_blanks.mpr hx, rfl⟩

end Pattern

end ZigAdvisor
