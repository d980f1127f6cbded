import Mathlib.Data.List.DropRight
import ZigAdvisor.Proofs.Pattern.Scan
import ZigAdvisor.Proofs.Text.Items
import ZigAdvisor.Review.Style

/-!
# Lines counted by patterns

A pattern whose matches lie in one line and reach its end has one match at most in each line. So
what it counts in a text is the number of lines in which it is found (`EndsLines.count_eq_countP`).
Two figures on style are such numbers: the lines that end with a space or a tab, and the lines of
more than 100 code points.
-/

namespace ZigAdvisor

open Text

namespace Text

def IsLineStart (before : Option CodePoint) : Prop := before.all (· == ('\n' : CodePoint)) = true

def IsLineEnd (rest : Text) : Prop := rest.head?.all (· == ('\n' : CodePoint)) = true

theorem line_unique {a b rest rest' : Text} (ha : IsLine a) (hb : IsLine b)
    (hrest : IsLineEnd rest) (hrest' : IsLineEnd rest') (h : a ++ rest = b ++ rest') :
    a = b ∧ rest = rest' := by
  have hline {t u : Text} (ht : IsLine t) (hu : IsLineEnd u) :
      (t ++ u).takeWhile (· != ('\n' : CodePoint)) = t := by
    rw [List.takeWhile_append_of_pos fun c hc => bne_iff_ne.mpr (ht c hc)]
    cases u with
    | nil => exact List.append_nil t
    | cons c u =>
      have hc : c = '\n' := by simpa [IsLineEnd] using hu
      rw [List.takeWhile_cons_of_neg (by simp [hc]), List.append_nil]
  have hab : a = b := by rw [← hline ha hrest, h, hline hb hrest']
  subst hab
  exact ⟨rfl, List.append_cancel_left h⟩

end Text

namespace Pattern

variable {p : Pattern} {q : Text → Bool} {before : Option CodePoint} {line rest m : Text}
  {lines : List Text}

/-- Whether the matches of a pattern lie in one line and reach its end. -/
structure EndsLines (p : Pattern) : Prop where
  ne_nil : ∀ {before m rest}, p.Spans before m rest → m ≠ []
  isLine : ∀ {before m rest}, p.Spans before m rest → IsLine m
  atEnd : ∀ {before m rest}, p.Spans before m rest → IsLineEnd rest

def IsFoundIn (p : Pattern) (before : Option CodePoint) (line rest : Text) : Prop :=
  ∃ a m, line = a ++ m ∧ p.Spans (lastOr before a) m rest

/-- Whether a property tells in which lines a pattern is found. -/
def IsToldBy (p : Pattern) (q : Text → Bool) : Prop := ∀ {before line rest}, IsLineStart before →
  IsLine line → IsLineEnd rest → (p.IsFoundIn before line rest ↔ q line = true)

theorem isFoundIn_cons {c : CodePoint} : p.IsFoundIn before (c :: line) rest ↔
    p.Spans before (c :: line) rest ∨ p.IsFoundIn (some c) line rest := by
  constructor
  · rintro ⟨_ | ⟨d, a⟩, m, hm, hspan⟩
    · rw [List.nil_append] at hm
      exact Or.inl (hm ▸ hspan)
    · obtain ⟨rfl, rfl⟩ := List.cons.inj hm
      exact Or.inr ⟨a, m, rfl, hspan⟩
  · rintro (hspan | ⟨a, m, rfl, hspan⟩)
    · exact ⟨[], c :: line, rfl, hspan⟩
    · exact ⟨c :: a, m, rfl, hspan⟩

namespace EndsLines

theorem not_isFoundIn_nil (hp : p.EndsLines) : ¬ p.IsFoundIn before [] rest := by
  rintro ⟨a, m, hm, hspan⟩
  exact hp.ne_nil hspan (List.append_eq_nil_iff.mp hm.symm).2

/-- A search finds a pattern in a line once or not at all, and goes on at the end of the line. -/
theorem length_startsFrom_append (hp : p.EndsLines) (hline : IsLine line) (hrest : IsLineEnd rest)
    {found : Bool} (hfound : p.IsFoundIn before line rest ↔ found = true) (offset : ℕ) :
    (p.startsFrom 0 offset before (line ++ rest)).length = found.toNat +
      (p.startsFrom 0 (offset + line.length) (lastOr before line) rest).length := by
  induction line generalizing before offset with
  | nil =>
    have hnot : found = false := by
      rw [← Bool.not_eq_true, ← hfound]
      exact hp.not_isFoundIn_nil
    rw [hnot, List.nil_append, Bool.toNat_false, Nat.zero_add]
    rfl
  | cons c line ih =>
    rw [List.cons_append]
    cases hend : p.end? ⟨offset, before, c :: (line ++ rest)⟩ with
    | none =>
      have hnext : p.IsFoundIn (some c) line rest ↔ found = true := by
        rw [← hfound, isFoundIn_cons]
        exact (or_iff_right (end?_eq_none_iff.mp hend (c :: line) rest rfl)).symm
      rw [startsFrom, hend]
      simp only
      rw [ih (fun d hd => hline d (List.mem_cons_of_mem c hd)) hnext, List.length_cons,
        Nat.add_right_comm offset, Nat.add_assoc offset, lastOr_cons]
    | some d =>
      -- Both the match and what is left of the line end where the line ends.
      obtain ⟨m, hm, hspan, hstarts⟩ := exists_startsFrom_eq hend fun h => hp.ne_nil h rfl
      rw [← List.cons_append] at hm
      obtain ⟨rfl, hd⟩ := line_unique hline (hp.isLine hspan) hrest (hp.atEnd hspan) hm
      rw [← hd] at hspan
      have hone : found = true := hfound.mp (isFoundIn_cons.mpr (Or.inl hspan))
      rw [hstarts, List.length_cons, ← hd, hone, Bool.toNat_true, Nat.add_comm]

theorem startsFrom_newline (hp : p.EndsLines) (offset : ℕ) :
    p.startsFrom 0 offset before (('\n' : CodePoint) :: rest) =
      p.startsFrom 0 (offset + 1) (some '\n') rest := by
  have hend : p.end? ⟨offset, before, ('\n' : CodePoint) :: rest⟩ = none := by
    rw [end?_eq_none_iff]
    intro m behind hm hspan
    obtain ⟨c, m, rfl⟩ := List.exists_cons_of_ne_nil (hp.ne_nil hspan)
    exact hp.isLine hspan c List.mem_cons_self (List.cons.inj hm).1.symm
  rw [startsFrom, hend]

theorem length_startsFrom_join (hp : p.EndsLines) (hq : p.IsToldBy q) (hne : lines ≠ [])
    (hlines : ∀ line ∈ lines, IsLine line) (hbefore : IsLineStart before) (offset : ℕ) :
    (p.startsFrom 0 offset before (join "\n" lines)).length = lines.countP q := by
  induction lines generalizing before offset with
  | nil => exact absurd rfl hne
  | cons line lines ih =>
    rw [List.forall_mem_cons] at hlines
    cases lines with
    | nil =>
      have hend : IsLineEnd [] := rfl
      have hline := hp.length_startsFrom_append hlines.1 hend (hq hbefore hlines.1 hend) offset
      rw [List.append_nil, startsFrom, List.length_nil, Nat.add_zero] at hline
      rw [join, List.intercalate_singleton, hline, List.countP_singleton]
      cases q line <;> rfl
    | cons next lines =>
      have hend : IsLineEnd (('\n' : CodePoint) :: join "\n" (next :: lines)) := rfl
      have hfeed : IsLineStart (some '\n') := rfl
      have hjoin : join "\n" (line :: next :: lines) =
          line ++ ('\n' : CodePoint) :: join "\n" (next :: lines) := join_cons_cons
      rw [hjoin, hp.length_startsFrom_append hlines.1 hend (hq hbefore hlines.1 hend),
        hp.startsFrom_newline, ih (List.cons_ne_nil next lines) hlines.2 hfeed,
        List.countP_cons (l := next :: lines), Nat.add_comm]
      cases q line <;> rfl

/-- If a property tells in which lines a pattern is found, it counts the lines with the property. -/
theorem count_eq_countP (hp : p.EndsLines) (hq : p.IsToldBy q) (t : Text) :
    p.count t = (splitAtNewlines t).countP q := by
  have hcount := hp.length_startsFrom_join hq pieces_ne_nil (isLine_of_mem_splitAtNewlines t)
    (rfl : IsLineStart none) 0
  rwa [← splitAtNewlines, join_splitAtNewlines] at hcount

end EndsLines

end Pattern

namespace Style

open Pattern

variable {before : Option CodePoint} {line m rest : Text}

def trailingGap : Pattern := .inOrder [.notAfter (.of " \t"), .many (.of " \t") 1 none, .lineEnd]

def longLine : Pattern := .inOrder [.lineStart, .many .inLine 101 none, .lineEnd]

def isGap (c : CodePoint) : Bool := c == (' ' : CodePoint) || c == ('\t' : CodePoint)

theorem get_trailing_whitespace (t : Text) :
    (Metric.measure metrics t).get "trailing_whitespace" = trailingGap.count t := rfl

theorem get_long_lines (t : Text) :
    (Metric.measure metrics t).get "long_lines" = longLine.count t := rfl

theorem mem_gap : (CharSet.of " \t").mem = isGap := by
  funext c
  rw [Bool.eq_iff_iff, CharSet.mem_of]
  simp [isGap, ofString]

theorem mem_inLine {c : CodePoint} : CharSet.inLine.mem c = true ↔ c ≠ '\n' := by
  have hmem : CharSet.inLine.mem c = !(('\n' : CodePoint) == c) := by
    simp [CharSet.inLine, CharSet.except, CharSet.mem, CharClass.mem, ofString]
  rw [hmem, Bool.not_eq_true', beq_eq_false_iff_ne]
  exact ne_comm

theorem spans_trailingGap : trailingGap.Spans before m rest ↔
    before.any isGap = false ∧ m ≠ [] ∧ (∀ c ∈ m, isGap c = true) ∧ IsLineEnd rest := by
  simp only [trailingGap, inOrder, Spans, mem_gap]
  constructor
  · rintro ⟨_, _, rfl, ⟨rfl, hbefore⟩, x, _, rfl, ⟨hgap, hlen, -⟩, rfl, hend⟩
    rw [List.nil_append, List.append_nil]
    exact ⟨hbefore, List.length_pos_iff.mp hlen, hgap, hend⟩
  · rintro ⟨hbefore, hne, hgap, hend⟩
    exact ⟨[], m, rfl, ⟨rfl, hbefore⟩, m, [], (List.append_nil m).symm,
      ⟨hgap, List.length_pos_iff.mpr hne, by simp⟩, rfl, hend⟩

theorem spans_longLine : longLine.Spans before m rest ↔
    IsLineStart before ∧ IsLine m ∧ 100 < m.length ∧ IsLineEnd rest := by
  simp only [longLine, inOrder, Spans, mem_inLine]
  constructor
  · rintro ⟨_, _, rfl, ⟨rfl, hstart⟩, x, _, rfl, ⟨hline, hlen, -⟩, rfl, hend⟩
    rw [List.nil_append, List.append_nil]
    exact ⟨hstart, hline, hlen, hend⟩
  · rintro ⟨hstart, hline, hlen, hend⟩
    exact ⟨[], m, rfl, ⟨rfl, hstart⟩, m, [], (List.append_nil m).symm, ⟨hline, hlen, by simp⟩, rfl,
      hend⟩

theorem ne_newline_of_isGap {c : CodePoint} (h : isGap c = true) : c ≠ '\n' := by
  rintro rfl
  exact absurd h (by decide)

theorem endsLines_trailingGap : trailingGap.EndsLines where
  ne_nil h := (spans_trailingGap.mp h).2.1
  isLine h c hc := ne_newline_of_isGap ((spans_trailingGap.mp h).2.2.1 c hc)
  atEnd h := (spans_trailingGap.mp h).2.2.2

theorem endsLines_longLine : longLine.EndsLines where
  ne_nil h := List.length_pos_iff.mp (Nat.zero_lt_of_lt (spans_longLine.mp h).2.2.1)
  isLine h := (spans_longLine.mp h).2.1
  atEnd h := (spans_longLine.mp h).2.2.2

def endsWithGap (line : Text) : Bool := line.getLast?.any isGap

/-- In front of what a line ends with, as far back as there are spaces and tabs, stands neither. -/
theorem not_isGap_lastOr_rdropWhile (hstart : IsLineStart before) (line : Text) :
    (lastOr before (line.rdropWhile isGap)).any isGap = false := by
  have hlast := List.rdropWhile_last_not isGap line
  generalize line.rdropWhile isGap = front at hlast ⊢
  rcases List.eq_nil_or_concat' front with rfl | ⟨front, c, rfl⟩
  · cases before with
    | none => rfl
    | some c =>
      have hc : c = '\n' := by simpa [IsLineStart] using hstart
      rw [hc]
      decide
  · rw [lastOr_concat, Option.any_some]
    simpa using hlast (by simp)

theorem isToldBy_endsWithGap : trailingGap.IsToldBy endsWithGap := by
  intro before line rest hstart hline hend
  constructor
  · rintro ⟨a, m, rfl, hspan⟩
    obtain ⟨-, hne, hgap, -⟩ := spans_trailingGap.mp hspan
    obtain ⟨front, c, rfl⟩ := (List.eq_nil_or_concat' m).resolve_left hne
    rw [endsWithGap, ← List.append_assoc, List.getLast?_concat]
    exact hgap c (by simp)
  · intro hlast
    have hne : line.rtakeWhile isGap ≠ [] := by
      rcases List.eq_nil_or_concat' line with rfl | ⟨front, c, rfl⟩
      · simp [endsWithGap] at hlast
      · rw [endsWithGap, List.getLast?_concat, Option.any_some] at hlast
        rw [List.rtakeWhile_concat_pos isGap front c hlast]
        simp
    exact ⟨line.rdropWhile isGap, line.rtakeWhile isGap,
      (List.rdropWhile_append_rtakeWhile ..).symm, spans_trailingGap.mpr
        ⟨not_isGap_lastOr_rdropWhile hstart line, hne, fun c => List.mem_rtakeWhile_imp, hend⟩⟩

theorem isToldBy_length : longLine.IsToldBy fun line => 100 < line.length := by
  intro before line rest hstart hline hend
  rw [decide_eq_true_eq]
  constructor
  · rintro ⟨a, m, rfl, hspan⟩
    obtain ⟨hbegin, -, hlen, -⟩ := spans_longLine.mp hspan
    rcases List.eq_nil_or_concat' a with rfl | ⟨front, c, rfl⟩
    · exact hlen
    · -- No line begins inside a line.
      rw [lastOr_concat] at hbegin
      have hc : c = '\n' := by simpa [IsLineStart] using hbegin
      exact absurd hc (hline c (by simp))
  · intro hlen
    exact ⟨[], line, rfl, spans_longLine.mpr ⟨hstart, hline, hlen, hend⟩⟩

/-- Two figures on style count lines: those that end with a space or a tab, and those of more than
100 code points. -/
theorem figures_of_lines (t : Text) :
    (Metric.measure metrics t).get "trailing_whitespace" =
      (splitAtNewlines t).countP endsWithGap ∧
    (Metric.measure metrics t).get "long_lines" =
      (splitAtNewlines t).countP fun line => 100 < line.length := by
  rw [get_trailing_whitespace, get_long_lines]
  exact ⟨endsLines_trailingGap.count_eq_countP isToldBy_endsWithGap t,
    endsLines_longLine.count_eq_countP isToldBy_length t⟩

end Style

end ZigAdvisor
