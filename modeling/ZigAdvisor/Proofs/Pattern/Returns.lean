import ZigAdvisor.Proofs.Pattern.Counting
import ZigAdvisor.Proofs.Pattern.Scan
import ZigAdvisor.Proofs.Text.Lines
import ZigAdvisor.Proofs.Text.Occurrence

/-!
# Patterns that overlook carriage returns

Where a line ends with a carriage return and a line feed, a file is read with the line feed alone.
A pattern whose repeats take any number of line ends or none, and whose other parts have none, ends
at the places that correspond, but for those between the two code points (`sifts_ends`). If its
matches neither begin nor end with a line end, it is found equally often
(`count_withNewlines`).
-/

namespace ZigAdvisor

def CodePoint.isNewline (c : CodePoint) : Bool := c == ('\r' : CodePoint) || c == ('\n' : CodePoint)

def CodePoint.asRead (c : CodePoint) : CodePoint := if c = '\r' then '\n' else c

/-- What is read of a text behind `before`, where a line feed may belong to the carriage return in
front of it. -/
def Text.readBehind : Option CodePoint → Text → Text
  | _, [] => []
  | before, c :: rest =>
    if before = some ('\r' : CodePoint) ∧ c = '\n' then readBehind (some c) rest
    else c.asRead :: readBehind (some c) rest

variable {before before' : Option CodePoint} {x y : CodePoint} {t m rest : Text} {s : CharSet}

namespace CodePoint

theorem isWord_of_isNewline (h : y.isNewline = true) : y.isWord = false := by
  rw [isNewline, Bool.or_eq_true, beq_iff_eq, beq_iff_eq] at h
  rcases h with rfl | rfl <;> decide +kernel

theorem asRead_of_not (h : y.isNewline = false) : y.asRead = y := by
  rw [isNewline, Bool.or_eq_false_iff, beq_eq_false_iff_ne] at h
  exact if_neg h.1

theorem isNewline_asRead (y : CodePoint) : y.asRead.isNewline = y.isNewline := by
  by_cases h : y = '\r'
  · subst h
    decide
  · rw [asRead, if_neg h]

theorem isWord_asRead (y : CodePoint) : y.asRead.isWord = y.isWord := by
  cases h : y.isNewline with
  | true => rw [isWord_of_isNewline h, isWord_of_isNewline ((isNewline_asRead y).trans h)]
  | false => rw [asRead_of_not h]

end CodePoint

namespace Text

theorem readBehind_cons (h : ¬ (before = some ('\r' : CodePoint) ∧ y = '\n')) :
    readBehind before (y :: t) = y.asRead :: readBehind (some y) t := if_neg h

theorem readBehind_of_ne (h : before ≠ some ('\r' : CodePoint)) :
    readBehind before t = withNewlines t := by
  induction t generalizing before with
  | nil => rfl
  | cons y t ih =>
    rw [readBehind_cons fun hreturn => h hreturn.1, withNewlines]
    by_cases hy : y = '\r'
    · subst hy
      have hnone : none ≠ some ('\r' : CodePoint) := (Option.some_ne_none _).symm
      rw [if_pos rfl, ← ih hnone]
      by_cases hfeed : t.head? = some ('\n' : CodePoint)
      · -- The carriage return is read, and the line feed behind it is passed.
        obtain ⟨u, rfl⟩ := List.head?_eq_some_iff.mp hfeed
        rw [if_pos hfeed, readBehind, if_pos ⟨rfl, rfl⟩, readBehind_cons fun h => hnone h.1]
        rfl
      · rw [if_neg hfeed]
        refine congrArg _ ?_
        cases t with
        | nil => rfl
        | cons z t =>
          have hz : z ≠ '\n' := fun hz => hfeed (congrArg some hz)
          rw [readBehind_cons fun h => hz h.2, readBehind_cons fun h => hz h.2]
    · rw [if_neg hy, CodePoint.asRead, if_neg hy, ih fun h => hy (Option.some.inj h)]

end Text

namespace CharSet

def clear (s : CharSet) : Bool := !s.mem '\r' && !s.mem '\n'

def full (s : CharSet) : Bool := s.mem '\r' && s.mem '\n'

theorem isNewline_of_clear (hs : s.clear = true) (h : s.mem y = true) : y.isNewline = false := by
  rw [clear, Bool.and_eq_true, Bool.not_eq_true', Bool.not_eq_true'] at hs
  rw [← Bool.not_eq_true, CodePoint.isNewline, Bool.or_eq_true, beq_iff_eq, beq_iff_eq]
  rintro (rfl | rfl)
  · exact absurd h (by rw [hs.1]; decide)
  · exact absurd h (by rw [hs.2]; decide)

theorem mem_asRead (hs : s.clear = true ∨ s.full = true) (y : CodePoint) :
    s.mem y.asRead = s.mem y := by
  by_cases h : y = '\r'
  · subst h
    rcases hs with hs | hs
    · rw [clear, Bool.and_eq_true, Bool.not_eq_true', Bool.not_eq_true'] at hs
      exact hs.2.trans hs.1.symm
    · rw [full, Bool.and_eq_true] at hs
      exact hs.2.trans hs.1.symm
  · rw [CodePoint.asRead, if_neg h]

end CharSet

namespace Cursor

/-- Whether a place lies between a carriage return and its line feed. -/
def Inside (c : Cursor) : Prop :=
  c.before = some ('\r' : CodePoint) ∧ c.rest.head? = some ('\n' : CodePoint)

structure ReadAs (c d : Cursor) : Prop where
  rest : d.rest = Text.readBehind c.before c.rest
  before : d.before.any CodePoint.isWord = c.before.any CodePoint.isWord

/-- The second list has the places that correspond to those of the first, but for the ones inside
of line ends. -/
inductive Sifts : List Cursor → List Cursor → Prop
  | nil : Sifts [] []
  | keep {c d cs ds} (outside : ¬ c.Inside) (h : c.ReadAs d) (others : Sifts cs ds) :
      Sifts (c :: cs) (d :: ds)
  | drop {c cs ds} (inside : c.Inside) (others : Sifts cs ds) : Sifts (c :: cs) ds

variable {c d : Cursor} {cs cs' ds ds' : List Cursor} {offset offset' : ℕ}

theorem inside_cons : (Cursor.mk offset before (y :: t)).Inside ↔
    before = some ('\r' : CodePoint) ∧ y = '\n' := by
  rw [Inside, List.head?_cons, Option.some_inj]

/-- Behind anything but a line end no place is inside. -/
theorem not_inside (h : y.isNewline = false) : ¬ (Cursor.mk offset (some y) t).Inside := by
  rintro ⟨hbefore, -⟩
  rw [Option.some.inj hbefore] at h
  exact absurd h (by decide)

theorem ReadAs.next : (Cursor.mk offset (some y) t).ReadAs
    (Cursor.mk offset' (some y.asRead) (Text.readBehind (some y) t)) :=
  ⟨rfl, CodePoint.isWord_asRead y⟩

namespace Sifts

theorem append (h : Sifts cs ds) (h' : Sifts cs' ds') : Sifts (cs ++ cs') (ds ++ ds') := by
  induction h with
  | nil => exact h'
  | keep outside hread _ ih => exact .keep outside hread ih
  | drop inside _ ih => exact .drop inside ih

theorem all_inside (h : ∀ c ∈ cs, c.Inside) : Sifts cs [] := by
  induction cs with
  | nil => exact .nil
  | cons c cs ih =>
    rw [List.forall_mem_cons] at h
    exact .drop h.1 (ih h.2)

/-- Where no place is inside, the first ones correspond. -/
theorem head? (h : Sifts cs ds) (houtside : ∀ c ∈ cs, ¬ c.Inside) :
    Option.Rel ReadAs cs.head? ds.head? := by
  cases h with
  | nil => exact .none
  | keep _ hread _ => exact .some hread
  | drop inside _ => exact absurd inside (houtside _ List.mem_cons_self)

theorem flatMap {f : Cursor → List Cursor} (h : Sifts cs ds)
    (hread : ∀ c ∈ cs, ∀ d, ¬ c.Inside → c.ReadAs d → Sifts (f c) (f d))
    (hinside : ∀ c ∈ cs, c.Inside → ∀ d ∈ f c, d.Inside) : Sifts (cs.flatMap f) (ds.flatMap f) := by
  induction h with
  | nil => exact .nil
  | keep outside hc _ ih =>
    rw [List.forall_mem_cons] at hread hinside
    rw [List.flatMap_cons, List.flatMap_cons]
    exact (hread.1 _ outside hc).append (ih hread.2 hinside.2)
  | @drop _ _ ds inside _ ih =>
    rw [List.forall_mem_cons] at hread hinside
    rw [List.flatMap_cons, ← List.nil_append (ds.flatMap f)]
    exact (all_inside (hinside.1 inside)).append (ih hread.2 hinside.2)

end Sifts

theorem sifts_past? (ht : ∀ x ∈ t, x.isNewline = false) (houtside : ¬ c.Inside)
    (h : c.ReadAs d) : Sifts (c.past? t).toList (d.past? t).toList := by
  induction t generalizing c d with
  | nil => exact .keep houtside h .nil
  | cons x t ih =>
    rw [List.forall_mem_cons] at ht
    obtain ⟨offset, before, rest⟩ := c
    obtain ⟨offset', before', rest'⟩ := d
    obtain rfl : rest' = Text.readBehind before rest := h.rest
    cases rest with
    | nil => exact .nil
    | cons y rest =>
      have hx : x = y.asRead ↔ x = y := by
        constructor
        · rintro rfl
          rw [CodePoint.isNewline_asRead] at ht
          exact CodePoint.asRead_of_not ht.1
        · rintro rfl
          exact (CodePoint.asRead_of_not ht.1).symm
      rw [Text.readBehind_cons (inside_cons.not.mp houtside), past?, past?]
      simp only [hx]
      split_ifs with hy
      · subst hy
        refine ih ht.2 (not_inside ht.1) ?_
        rw [CodePoint.asRead_of_not ht.1]
        have hnext : (Cursor.mk (offset + 1) (some x) rest).ReadAs
          ⟨offset' + 1, some x.asRead, Text.readBehind (some x) rest⟩ := .next
        rwa [CodePoint.asRead_of_not ht.1] at hnext
      · exact .nil

/-- What a repetition must have is passed in both texts, and leads inside a line end only if the
set has it. -/
theorem rel_skip? {n : ℕ} (hs : s.clear = true ∨ s.full = true ∧ n ≤ 1) (houtside : ¬ c.Inside)
    (h : c.ReadAs d) : Option.Rel (fun c d => c.ReadAs d ∧ (c.Inside → s.full = true))
      (c.skip? s n) (d.skip? s n) := by
  induction n generalizing c d with
  | zero => exact .some ⟨h, fun hinside => absurd hinside houtside⟩
  | succ n ih =>
    obtain ⟨offset, before, rest⟩ := c
    obtain ⟨offset', before', rest'⟩ := d
    obtain rfl : rest' = Text.readBehind before rest := h.rest
    cases rest with
    | nil => exact .none
    | cons y rest =>
      rw [Text.readBehind_cons (inside_cons.not.mp houtside), skip?, skip?,
        CharSet.mem_asRead (hs.imp_right And.left)]
      split_ifs with hy
      · rcases hs with hclear | ⟨hfull, hn⟩
        · exact ih (.inl hclear) (not_inside (CharSet.isNewline_of_clear hclear hy)) .next
        · obtain rfl : n = 0 := by omega
          exact .some ⟨.next, fun _ => hfull⟩
      · exact .none

theorem sifts_stops {most : Option ℕ} {nearer nearer' : List Cursor}
    (hs : s.clear = true ∨ s.full = true ∧ most = none)
    (hinside : (Cursor.mk offset before rest).Inside → s.full = true)
    (hbefore : before'.any CodePoint.isWord = before.any CodePoint.isWord)
    (h : Sifts nearer nearer') : Sifts (stops s most offset before rest nearer)
      (stops s most offset' before' (Text.readBehind before rest) nearer') := by
  induction rest generalizing most offset offset' before before' nearer nearer' with
  | nil => exact .keep (fun hin => Option.some_ne_none _ hin.2.symm) ⟨rfl, hbefore⟩ h
  | cons y rest ih =>
    have hnext (hy : s.mem y = true) (hin : (Cursor.mk (offset + 1) (some y) rest).Inside) :
        s.full = true := by
      rcases hs with hclear | hfull
      · exact absurd hin (not_inside (CharSet.isNewline_of_clear hclear hy))
      · exact hfull.1
    have hs' : s.clear = true ∨ s.full = true ∧ most.map (· - 1) = none :=
      hs.imp_right fun hfull => ⟨hfull.1, by rw [hfull.2]; rfl⟩
    by_cases hin : before = some ('\r' : CodePoint) ∧ y = '\n'
    · -- The line feed is a further stop in the text itself only.
      have hfull := hinside (inside_cons.mpr hin)
      obtain ⟨rfl, rfl⟩ := hin
      have hmem := hfull
      rw [CharSet.full, Bool.and_eq_true] at hmem
      have hnone : most = none := by
        rcases hs with hclear | hs
        · exact absurd (CharSet.isNewline_of_clear hclear hmem.2) (by decide)
        · exact hs.2
      subst hnone
      rw [Text.readBehind, if_pos ⟨rfl, rfl⟩, stops, if_pos ⟨(Option.some_ne_none 0).symm, hmem.2⟩]
      refine ih hs' (fun _ => hfull) (hbefore.trans ?_) (.drop (inside_cons.mpr ⟨rfl, rfl⟩) h)
      decide +kernel
    · have hread : (Cursor.mk offset before (y :: rest)).ReadAs
          (Cursor.mk offset' before' (y.asRead :: Text.readBehind (some y) rest)) :=
        ⟨(Text.readBehind_cons hin).symm, hbefore⟩
      have houtside : ¬ (Cursor.mk offset before (y :: rest)).Inside := inside_cons.not.mpr hin
      rw [Text.readBehind_cons hin, stops, stops, CharSet.mem_asRead (hs.imp_right And.left)]
      split_ifs with hy
      · exact ih hs' (hnext hy.2) (CodePoint.isWord_asRead y) (.keep houtside hread h)
      · exact .keep houtside hread h

end Cursor

namespace Pattern

open Cursor (Inside ReadAs Sifts)

variable {p q : Pattern} {c d e : Cursor}

def opens : Pattern → Bool
  | lit t => !t.head?.any CodePoint.isNewline
  | one s => s.clear
  | many s _ _ => s.clear
  | seq p q => p.opens && (p.consumes || q.opens)
  | alt p q => p.opens && q.opens
  | star _ => false
  | _ => true

def closes : Pattern → Bool
  | lit t => !t.getLast?.any CodePoint.isNewline
  | one s => s.clear
  | many s _ _ => s.clear
  | seq p q => q.closes && (q.consumes || p.closes)
  | alt p q => p.closes && q.closes
  | star _ => false
  | _ => true

/-- Whether a pattern makes nothing of a carriage return in place of a line feed or in front of
one. Repeats of blanks do not, since what stands beside them is no blank. -/
def steady : Pattern → Bool
  | lit t => t.all (!·.isNewline)
  | one s => s.clear
  | many s least most => s.clear || s.full && least ≤ 1 && most.isNone
  | seq p q => p.steady && q.steady && (p.closes || q.opens)
  | alt p q => p.steady && q.steady
  | notAhead p => p.steady && p.closes
  | wordEdge => true
  | _ => false

theorem isNewline_of_opens (hp : p.opens = true) (h : p.Spans before m rest) :
    m.head?.any CodePoint.isNewline = false := by
  induction p generalizing before m rest with
  | lit t =>
    obtain rfl : m = t := h
    simpa only [opens, Bool.not_eq_true'] using hp
  | one s =>
    obtain ⟨c, rfl, hc⟩ := h
    exact CharSet.isNewline_of_clear hp hc
  | many s least most =>
    cases m with
    | nil => rfl
    | cons c m => exact CharSet.isNewline_of_clear hp (h.1 c List.mem_cons_self)
  | seq p q ihp ihq =>
    obtain ⟨x, y, rfl, hx, hy⟩ := h
    rw [opens, Bool.and_eq_true, Bool.or_eq_true] at hp
    by_cases hnil : x = []
    · subst hnil
      exact ihq (hp.2.resolve_left fun hconsumes => ne_nil_of_consumes hconsumes hx rfl) hy
    · rw [List.head?_append_of_ne_nil x hnil]
      exact ihp hp.1 hx
  | alt p q ihp ihq =>
    rw [opens, Bool.and_eq_true] at hp
    exact h.elim (ihp hp.1) (ihq hp.2)
  | star _ => exact absurd hp (by simp [opens])
  | ahead _ | notAhead _ | notAfter _ | wordEdge | lineStart | lineEnd =>
    rw [h.1]
    rfl

theorem isNewline_of_closes (hp : p.closes = true) (h : p.Spans before m rest) :
    m.getLast?.any CodePoint.isNewline = false := by
  induction p generalizing before m rest with
  | lit t =>
    obtain rfl : m = t := h
    simpa only [closes, Bool.not_eq_true'] using hp
  | one s =>
    obtain ⟨c, rfl, hc⟩ := h
    exact CharSet.isNewline_of_clear hp hc
  | many s least most =>
    cases hlast : m.getLast? with
    | none => rfl
    | some c => exact CharSet.isNewline_of_clear hp (h.1 c (List.mem_of_getLast? hlast))
  | seq p q ihp ihq =>
    obtain ⟨x, y, rfl, hx, hy⟩ := h
    rw [closes, Bool.and_eq_true, Bool.or_eq_true] at hp
    by_cases hnil : y = []
    · subst hnil
      rw [List.append_nil]
      exact ihp (hp.2.resolve_left fun hconsumes => ne_nil_of_consumes hconsumes hy rfl) hx
    · rw [List.getLast?_append_of_ne_nil x hnil]
      exact ihq hp.1 hy
  | alt p q ihp ihq =>
    rw [closes, Bool.and_eq_true] at hp
    exact h.elim (ihp hp.1) (ihq hp.2)
  | star _ => exact absurd hp (by simp [closes])
  | ahead _ | notAhead _ | notAfter _ | wordEdge | lineStart | lineEnd =>
    rw [h.1]
    rfl

theorem not_inside_of_mem_ends (hp : p.closes = true) (houtside : ¬ c.Inside)
    (he : e ∈ p.ends c) : ¬ e.Inside := by
  obtain ⟨m, hm, hspan⟩ := mem_ends.mp he
  have hlast := isNewline_of_closes hp hspan
  rcases List.eq_nil_or_concat' m with rfl | ⟨u, x, rfl⟩
  · rwa [Cursor.leads_nil.mp hm]
  · rw [List.getLast?_concat, Option.any_some] at hlast
    rintro ⟨hreturn, -⟩
    rw [hm.2.2, Text.lastOr_concat, Option.some_inj] at hreturn
    rw [hreturn] at hlast
    exact absurd hlast (by decide)

/-- Inside a line end, a pattern that begins with none ends where it is or nowhere. -/
theorem inside_of_mem_ends (hp : p.opens = true) (hinside : c.Inside) (he : e ∈ p.ends c) :
    e.Inside := by
  obtain ⟨m, hm, hspan⟩ := mem_ends.mp he
  have hfirst := isNewline_of_opens hp hspan
  cases m with
  | nil => rwa [Cursor.leads_nil.mp hm]
  | cons x m =>
    have hrest : c.rest.head? = some x := by rw [hm.1, List.cons_append, List.head?_cons]
    rw [hinside.2, Option.some_inj] at hrest
    rw [List.head?_cons, Option.any_some, ← hrest] at hfirst
    exact absurd hfirst (by decide)

/-- Started at corresponding places, a steady pattern ends at corresponding places. -/
theorem sifts_ends (hp : p.steady = true) (houtside : ¬ c.Inside) (h : c.ReadAs d) :
    Sifts (p.ends c) (p.ends d) := by
  induction p generalizing c d with
  | lit t =>
    refine Cursor.sifts_past? (fun x hx => ?_) houtside h
    rw [steady, List.all_eq_true] at hp
    simpa only [Bool.not_eq_true'] using hp x hx
  | one s =>
    obtain ⟨offset, before, rest⟩ := c
    obtain ⟨offset', before', rest'⟩ := d
    obtain rfl : rest' = Text.readBehind before rest := h.rest
    cases rest with
    | nil => exact .nil
    | cons y rest =>
      rw [Text.readBehind_cons (Cursor.inside_cons.not.mp houtside), ends, ends,
        CharSet.mem_asRead (.inl hp)]
      split_ifs with hy
      · exact .keep (Cursor.not_inside (CharSet.isNewline_of_clear hp hy)) .next .nil
      · exact .nil
  | many s least most =>
    rw [steady, Bool.or_eq_true, Bool.and_eq_true, Bool.and_eq_true, decide_eq_true_eq,
      Option.isNone_iff_eq_none] at hp
    have hskip := Cursor.rel_skip? (hp.imp_right fun hfull => hfull.1) houtside h
    rw [ends, ends]
    generalize c.skip? s least = stop at hskip ⊢
    generalize d.skip? s least = stop' at hskip ⊢
    cases hskip with
    | none => exact .nil
    | @some e e' he =>
      have hstops : s.clear = true ∨ s.full = true ∧ most.map (· - least) = none :=
        hp.imp_right fun hfull => ⟨hfull.1.1, by rw [hfull.2]; rfl⟩
      simp only [he.1.rest]
      exact Cursor.sifts_stops hstops he.2 he.1.before .nil
  | seq p q ihp ihq =>
    rw [steady, Bool.and_eq_true, Bool.and_eq_true, Bool.or_eq_true] at hp
    refine (ihp hp.1.1 houtside h).flatMap (fun c _ d hc hd => ihq hp.1.2 hc hd) ?_
    intro e he hinside e' he'
    rcases hp.2 with hcloses | hopens
    · exact absurd hinside (not_inside_of_mem_ends hcloses houtside he)
    · exact inside_of_mem_ends hopens hinside he'
  | alt p q ihp ihq =>
    rw [steady, Bool.and_eq_true] at hp
    exact (ihp hp.1 houtside h).append (ihq hp.2 houtside h)
  | notAhead p ih =>
    rw [steady, Bool.and_eq_true] at hp
    have hempty := (ih hp.1 houtside h).head?
      fun e he => not_inside_of_mem_ends hp.2 houtside he
    rw [ends, ends]
    generalize p.ends c = cs at *
    generalize p.ends d = ds at *
    cases cs <;> cases ds <;> cases hempty
    · exact .keep houtside h .nil
    · exact .nil
  | wordEdge =>
    have hnext : d.rest.head?.any CodePoint.isWord = c.rest.head?.any CodePoint.isWord := by
      rw [h.rest]
      obtain ⟨offset, before, rest⟩ := c
      cases rest with
      | nil => rfl
      | cons y rest =>
        rw [Text.readBehind_cons (Cursor.inside_cons.not.mp houtside)]
        exact CodePoint.isWord_asRead y
    rw [ends, ends, h.before, hnext]
    split_ifs
    · exact .keep houtside h .nil
    · exact .nil
  | star _ | ahead _ | notAfter _ | lineStart | lineEnd => exact absurd hp (by simp [steady])

def overlooksReturns (p : Pattern) : Bool := p.steady && p.opens && p.closes && p.consumes

theorem rel_end? (hsteady : p.steady = true) (hcloses : p.closes = true) (houtside : ¬ c.Inside)
    (h : c.ReadAs d) : Option.Rel ReadAs (p.end? c) (p.end? d) :=
  (sifts_ends hsteady houtside h).head? fun _ he => not_inside_of_mem_ends hcloses houtside he

/-- Nothing begins with the line feed that belongs to a carriage return. -/
theorem end?_inside (hopens : p.opens = true) (hconsumes : p.consumes = true)
    (hinside : c.Inside) : p.end? c = none := by
  rw [end?_eq_none_iff]
  intro m rest hrest hspan
  have hfirst := isNewline_of_opens hopens hspan
  have hhead := hinside.2
  rw [hrest, List.head?_append_of_ne_nil m (ne_nil_of_consumes hconsumes hspan)] at hhead
  rw [hhead] at hfirst
  exact absurd hfirst (by decide)

/-- Where nothing matches, a search goes on behind the next code point. -/
theorem startsFrom_of_none {offset : ℕ} (he : p.end? ⟨offset, before, y :: t⟩ = none) :
    p.startsFrom 0 offset before (y :: t) = p.startsFrom 0 (offset + 1) (some y) t := by
  rw [startsFrom, he]

/-- Behind a match, a search goes on at the end of it. -/
theorem startsFrom_of_end? {offset : ℕ} (hconsumes : p.consumes = true)
    (he : p.end? ⟨offset, before, y :: t⟩ = some e) :
    p.startsFrom 0 offset before (y :: t) =
      ⟨offset, before, y :: t⟩ :: p.startsFrom 0 e.offset e.before e.rest ∧
    e.rest.length < (y :: t).length := by
  obtain ⟨m, hm, hspan, hstarts⟩ :=
    exists_startsFrom_eq he fun h => ne_nil_of_consumes hconsumes h rfl
  obtain ⟨n, ⟨hrest, hoffset, hbefore⟩, -⟩ := reaches_of_end? he
  obtain rfl : m = n := List.append_cancel_right (hm.symm.trans hrest)
  simp only at hoffset hbefore
  refine ⟨by rw [hstarts, hoffset, hbefore], ?_⟩
  have hpos := List.length_pos_iff.mpr (ne_nil_of_consumes hconsumes hspan)
  rw [hm, List.length_append]
  omega

theorem length_startsFrom_readBehind (hp : p.overlooksReturns = true) (t : Text)
    {offset offset' : ℕ} (hbefore : before'.any CodePoint.isWord = before.any CodePoint.isWord) :
    (p.startsFrom 0 offset' before' (Text.readBehind before t)).length =
      (p.startsFrom 0 offset before t).length := by
  rw [overlooksReturns, Bool.and_eq_true, Bool.and_eq_true, Bool.and_eq_true] at hp
  obtain ⟨⟨⟨hsteady, hopens⟩, hcloses⟩, hconsumes⟩ := hp
  -- A match may be of any length, so the induction is on what the search has left.
  induction hn : t.length using Nat.strong_induction_on
    generalizing t before before' offset offset' with
  | _ n ih =>
    subst hn
    cases t with
    | nil => rfl
    | cons y t =>
      have hlt : t.length < (y :: t).length := Nat.lt_succ_self _
      by_cases hin : before = some ('\r' : CodePoint) ∧ y = '\n'
      · have hinside : (Cursor.mk offset before (y :: t)).Inside := Cursor.inside_cons.mpr hin
        rw [Text.readBehind, if_pos hin,
          startsFrom_of_none (end?_inside hopens hconsumes hinside)]
        refine ih _ hlt t (hbefore.trans ?_) rfl
        rw [hin.1, hin.2]
        decide +kernel
      · have hread : (Cursor.mk offset before (y :: t)).ReadAs
            (Cursor.mk offset' before' (y.asRead :: Text.readBehind (some y) t)) :=
          ⟨(Text.readBehind_cons hin).symm, hbefore⟩
        have hrel := rel_end? hsteady hcloses (Cursor.inside_cons.not.mpr hin) hread
        rw [Text.readBehind_cons hin]
        cases he : p.end? ⟨offset, before, y :: t⟩ with
        | none =>
          cases he' : p.end? ⟨offset', before', y.asRead :: Text.readBehind (some y) t⟩ with
          | none =>
            rw [startsFrom_of_none he, startsFrom_of_none he']
            exact ih _ hlt t (CodePoint.isWord_asRead y) rfl
          | some e' => exact absurd (he' ▸ he ▸ hrel) Option.not_rel_none_some
        | some e =>
          cases he' : p.end? ⟨offset', before', y.asRead :: Text.readBehind (some y) t⟩ with
          | none => exact absurd (he' ▸ he ▸ hrel) Option.not_rel_some_none
          | some e' =>
            obtain ⟨hrest, hword⟩ := Option.rel_some_some.mp (he' ▸ he ▸ hrel)
            obtain ⟨hstarts, hshorter⟩ := startsFrom_of_end? hconsumes he
            rw [hstarts, (startsFrom_of_end? hconsumes he').1, List.length_cons,
              List.length_cons, hrest]
            exact congrArg (· + 1) (ih _ hshorter e.rest hword rfl)

/-- A pattern that overlooks carriage returns is found equally often once they are read as line
feeds. -/
theorem count_withNewlines (hp : p.overlooksReturns = true) (t : Text) :
    p.count t.withNewlines = p.count t := by
  have hnone : none ≠ some ('\r' : CodePoint) := (Option.some_ne_none _).symm
  rw [← Text.readBehind_of_ne hnone]
  exact length_startsFrom_readBehind hp t rfl

theorem occursIn_withNewlines (hp : p.overlooksReturns = true) (t : Text) :
    p.occursIn t.withNewlines = p.occursIn t := by
  have hconsumes : p.consumes = true := by
    rw [overlooksReturns, Bool.and_eq_true] at hp
    exact hp.2
  have hne (before : Option CodePoint) (rest : Text) : ¬ p.Spans before [] rest :=
    fun h => ne_nil_of_consumes hconsumes h rfl
  rw [Bool.eq_iff_iff, ← count_pos_iff hne, ← count_pos_iff hne, count_withNewlines hp]

end Pattern

namespace Text

theorem contains_withNewlines {w : Text} (hw : (Pattern.lit w).overlooksReturns = true) (t : Text) :
    t.withNewlines.contains w = t.contains w := by
  have hlit (u : Text) : u.contains w = true ↔ (Pattern.lit w).occursIn u = true := by
    rw [contains_iff, Pattern.occursIn_iff]
    constructor
    · rintro ⟨a, b, rfl⟩
      exact ⟨a, w, b, List.append_assoc a w b, rfl⟩
    · rintro ⟨a, m, b, rfl, rfl⟩
      exact ⟨a, b, List.append_assoc a m b⟩
  rw [Bool.eq_iff_iff, hlit, hlit, Pattern.occursIn_withNewlines hw]

end Text

end ZigAdvisor
