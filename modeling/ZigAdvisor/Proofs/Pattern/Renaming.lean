import ZigAdvisor.Proofs.Pattern.Spans

/-!
# Patterns that ignore a renaming of code points

A renaming that no set, literal or condition of a pattern can see moves no match: the ends of the
pattern in a renamed text are the renamed ends (`ends_rename`), so its matches start at the same
places and are equally many.
-/

namespace ZigAdvisor

variable (f : CodePoint → CodePoint)

def Cursor.rename (c : Cursor) : Cursor := ⟨c.offset, c.before.map f, c.rest.map f⟩

def CharClass.Ignores (k : CharClass) : Prop := ∀ c, k.mem (f c) = k.mem c

def CharSet.Ignores (s : CharSet) : Prop := ∀ c, s.mem (f c) = s.mem c

/-- Whether the renaming neither makes nor removes a code point. -/
def CodePoint.Fixes (x : CodePoint) : Prop := ∀ c, f c = x ↔ c = x

/-- Whether no part of a pattern can see the renaming. -/
def Pattern.Ignores : Pattern → Prop
  | .lit t => ∀ x ∈ t, x.Fixes f
  | .one s | .many s _ _ | .notAfter s => s.Ignores f
  | .seq p q | .alt p q => p.Ignores ∧ q.Ignores
  | .star p | .ahead p | .notAhead p => p.Ignores
  | .wordEdge => ∀ c, (f c).isWord = c.isWord
  | .lineStart | .lineEnd => CodePoint.Fixes f '\n'

variable {f} {s : CharSet}

namespace CodePoint.Fixes

variable {x : CodePoint}

theorem beq_eq (hx : x.Fixes f) (c : CodePoint) : (f c == x) = (c == x) := by
  rw [Bool.eq_iff_iff, beq_iff_eq, beq_iff_eq]
  exact hx c

theorem head?_eq_iff (hx : x.Fixes f) (t : Text) :
    (t.map f).head? = some x ↔ t.head? = some x := by
  cases t with
  | nil => rfl
  | cons c t =>
    rw [List.map_cons, List.head?_cons, List.head?_cons, Option.some_inj, Option.some_inj]
    exact hx c

end CodePoint.Fixes

theorem CharClass.ignores_point {x : CodePoint} (hx : x.Fixes f) : (point x).Ignores f := by
  intro c
  rw [mem, mem, Bool.eq_iff_iff, beq_iff_eq, beq_iff_eq, eq_comm, hx c, eq_comm]

theorem CharSet.ignores_of_classes (h : ∀ k ∈ s.classes, k.Ignores f) : s.Ignores f := by
  intro c
  have hany : s.classes.any (·.mem (f c)) = s.classes.any (·.mem c) := by
    rw [Bool.eq_iff_iff, List.any_eq_true, List.any_eq_true]
    exact exists_congr fun k => and_congr_right fun hk => by rw [h k hk c]
  rw [mem, mem, hany]

namespace Cursor

theorem past?_rename {t : Text} (ht : ∀ x ∈ t, x.Fixes f) (c : Cursor) :
    (c.rename f).past? t = (c.past? t).map (rename f) := by
  induction t generalizing c with
  | nil => rfl
  | cons x t ih =>
    obtain ⟨offset, before, _ | ⟨y, rest⟩⟩ := c
    · rfl
    · rw [List.forall_mem_cons] at ht
      have hx : x = f y ↔ x = y := by rw [eq_comm, ht.1 y, eq_comm]
      simp only [rename, List.map_cons, past?, hx]
      split
      · exact ih ht.2 ⟨offset + 1, some y, rest⟩
      · rfl

theorem skip?_rename (hs : s.Ignores f) (n : Nat) (c : Cursor) :
    (c.rename f).skip? s n = (c.skip? s n).map (rename f) := by
  induction n generalizing c with
  | zero => rfl
  | succ n ih =>
    obtain ⟨offset, before, _ | ⟨y, rest⟩⟩ := c
    · rfl
    · simp only [rename, List.map_cons, skip?, hs y]
      split
      · exact ih ⟨offset + 1, some y, rest⟩
      · rfl

theorem stops_rename (hs : s.Ignores f) (most : Option Nat) (offset : Nat)
    (before : Option CodePoint) (rest : Text) (nearer : List Cursor) :
    stops s most offset (before.map f) (rest.map f) (nearer.map (rename f)) =
      (stops s most offset before rest nearer).map (rename f) := by
  induction rest generalizing most offset before nearer with
  | nil => rfl
  | cons y rest ih =>
    simp only [List.map_cons, stops, hs y]
    split
    · exact ih (most.map (· - 1)) (offset + 1) (some y) (⟨offset, before, y :: rest⟩ :: nearer)
    · rfl

theorem rounds_rename {step : Cursor → List Cursor}
    (hstep : ∀ c, step (c.rename f) = (step c).map (rename f)) (fuel : Nat) (c : Cursor) :
    rounds step fuel (c.rename f) = (rounds step fuel c).map (rename f) := by
  induction fuel generalizing c with
  | zero => rfl
  | succ fuel ih =>
    have hfilter : (step (c.rename f)).filter ((c.rename f).offset < ·.offset) =
        ((step c).filter (c.offset < ·.offset)).map (rename f) := by
      rw [hstep, List.filter_map]
      rfl
    simp only [rounds, hfilter, List.flatMap_map, ih, List.map_append, List.map_flatMap,
      List.map_cons, List.map_nil]

end Cursor

namespace Option

variable {q : CodePoint → Bool}

theorem any_map_of_ignores (hq : ∀ c, q (f c) = q c) (o : Option CodePoint) :
    (o.map f).any q = o.any q := by
  rw [Option.any_map, funext hq]

theorem all_map_of_ignores (hq : ∀ c, q (f c) = q c) (o : Option CodePoint) :
    (o.map f).all q = o.all q := by
  rw [Option.all_map, funext hq]

end Option

namespace Pattern

open Cursor (rename)

variable {p : Pattern}

/-- The ends of a pattern that ignores a renaming are renamed with the text. -/
theorem ends_rename (hp : p.Ignores f) (c : Cursor) :
    p.ends (c.rename f) = (p.ends c).map (rename f) := by
  induction p generalizing c with
  | lit t =>
    rw [ends, ends, Cursor.past?_rename hp]
    cases c.past? t <;> rfl
  | one s =>
    obtain ⟨offset, before, _ | ⟨y, rest⟩⟩ := c
    · rfl
    · simp only [rename, List.map_cons, ends, hp y]
      split <;> rfl
  | many s least most =>
    rw [ends, ends, Cursor.skip?_rename hp]
    cases c.skip? s least with
    | none => rfl
    | some d => exact Cursor.stops_rename hp (most.map (· - least)) d.offset d.before d.rest []
  | seq p q ihp ihq => simp only [ends, ihp hp.1, ihq hp.2, List.flatMap_map, List.map_flatMap]
  | alt p q ihp ihq => simp only [ends, ihp hp.1, ihq hp.2, List.map_append]
  | star p ih =>
    have hfuel : (c.rename f).rest.length = c.rest.length := List.length_map f
    rw [ends, ends, hfuel]
    exact Cursor.rounds_rename (ih hp) _ c
  | ahead p ih =>
    simp only [ends, ih hp, List.isEmpty_map]
    split <;> rfl
  | notAhead p ih =>
    simp only [ends, ih hp, List.isEmpty_map]
    split <;> rfl
  | notAfter s =>
    have hbefore : (c.rename f).before.any s.mem = c.before.any s.mem :=
      Option.any_map_of_ignores hp c.before
    rw [ends, ends, hbefore]
    split <;> rfl
  | wordEdge =>
    have hbefore : (c.rename f).before.any CodePoint.isWord = c.before.any CodePoint.isWord :=
      Option.any_map_of_ignores hp c.before
    have hrest : (c.rename f).rest.head?.any CodePoint.isWord =
        c.rest.head?.any CodePoint.isWord := by
      rw [rename, List.head?_map]
      exact Option.any_map_of_ignores hp c.rest.head?
    rw [ends, ends, hbefore, hrest]
    split <;> rfl
  | lineStart =>
    have hbefore : (c.rename f).before.all (· == ('\n' : CodePoint)) =
        c.before.all (· == ('\n' : CodePoint)) :=
      Option.all_map_of_ignores (CodePoint.Fixes.beq_eq hp) c.before
    rw [ends, ends, hbefore]
    split <;> rfl
  | lineEnd =>
    have hrest : (c.rename f).rest.head?.all (· == ('\n' : CodePoint)) =
        c.rest.head?.all (· == ('\n' : CodePoint)) := by
      rw [rename, List.head?_map]
      exact Option.all_map_of_ignores (CodePoint.Fixes.beq_eq hp) c.rest.head?
    rw [ends, ends, hrest]
    split <;> rfl

theorem end?_rename (hp : p.Ignores f) (c : Cursor) :
    p.end? (c.rename f) = (p.end? c).map (rename f) := by
  rw [end?, end?, ends_rename hp, List.head?_map]

theorem startsFrom_rename (hp : p.Ignores f) (skip offset : Nat) (before : Option CodePoint)
    (t : Text) : p.startsFrom skip offset (before.map f) (t.map f) =
      (p.startsFrom skip offset before t).map (rename f) := by
  induction t generalizing skip offset before with
  | nil => cases skip <;> rfl
  | cons y t ih =>
    cases skip with
    | succ skip => exact ih skip (offset + 1) (some y)
    | zero =>
      have hend := end?_rename hp ⟨offset, before, y :: t⟩
      simp only [rename, List.map_cons] at hend
      simp only [List.map_cons, startsFrom, hend]
      cases p.end? ⟨offset, before, y :: t⟩ with
      | none => exact ih 0 (offset + 1) (some y)
      | some e => exact congrArg _ (ih (e.offset - offset - 1) (offset + 1) (some y))

/-- The matches in the renamed text start at the same places. -/
theorem starts_rename (hp : p.Ignores f) (t : Text) :
    p.starts (t.map f) = (p.starts t).map (rename f) :=
  startsFrom_rename hp 0 0 none t

theorem count_rename (hp : p.Ignores f) (t : Text) : p.count (t.map f) = p.count t := by
  rw [count, starts_rename hp, List.length_map, count]

end Pattern

end ZigAdvisor
