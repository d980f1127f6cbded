import Mathlib.Tactic
import ZigAdvisor.Text.Lines

/-!
# Lines of texts that are put together

A text on one line and a line feed are the first line of what they begin. Whatever follows a text,
its lines stay the same but for the last one, which may go on.
-/

namespace ZigAdvisor.Text

variable {c : CodePoint} {t rest : Text}

theorem lines_return (h : t.head? = some ('\n' : CodePoint)) :
    lines (('\r' : CodePoint) :: t) = lines t := by
  rw [lines, if_pos ⟨rfl, h⟩]

theorem lines_break (hreturn : ¬ (c = '\r' ∧ t.head? = some ('\n' : CodePoint)))
    (hc : c.isLineBreak = true) : lines (c :: t) = [] :: lines t := by
  rw [lines, if_neg hreturn, if_pos hc]

theorem lines_feed : lines (('\n' : CodePoint) :: t) = [] :: lines t := by
  have hfeed : ('\n' : CodePoint) ≠ '\r' := by decide
  exact lines_break (fun h => hfeed h.1) (by decide)

theorem lines_cons (hc : c.isLineBreak = false) : lines (c :: t) =
    (c :: (lines t).headD []) :: (lines t).tail := by
  have hreturn : c ≠ '\r' := by
    rintro rfl
    exact absurd hc (by decide)
  rw [lines, if_neg fun h => hreturn h.1, if_neg (by simp [hc])]
  cases lines t with
  | nil => rfl
  | cons line others => rfl

/-- In front of a boundary stands an empty line, also where a carriage return and a line feed are
one. -/
theorem exists_lines_break (hc : c.isLineBreak = true) :
    ∃ others, lines (c :: t) = [] :: others := by
  by_cases hreturn : c = '\r' ∧ t.head? = some ('\n' : CodePoint)
  · obtain ⟨rfl, hfeed⟩ := hreturn
    obtain ⟨u, rfl⟩ := List.head?_eq_some_iff.mp hfeed
    exact ⟨lines u, by rw [lines_return hfeed, lines_feed]⟩
  · exact ⟨lines t, lines_break hreturn hc⟩

/-- A text on one line and a line feed are cut off as the first line. -/
theorem lines_append (h : ∀ c ∈ t, c.isLineBreak = false) :
    lines (t ++ ('\n' : CodePoint) :: rest) = t :: lines rest := by
  induction t with
  | nil => rw [List.nil_append, lines_feed]
  | cons c t ih =>
    rw [List.forall_mem_cons] at h
    rw [List.cons_append, lines_cons h.1, ih h.2]
    rfl

/-- What follows a text may change its last line and nothing before it. -/
theorem exists_lines_append (ht : t ≠ []) (s : Text) : ∃ front last behind others,
    lines t = front ++ [last] ∧ lines (t ++ s) = front ++ (last ++ behind) :: others := by
  induction t with
  | nil => exact absurd rfl ht
  | cons c t ih =>
    rw [List.cons_append]
    by_cases hnil : t = []
    · subst hnil
      rw [List.nil_append]
      cases hc : c.isLineBreak with
      | true =>
        obtain ⟨others, hothers⟩ := exists_lines_break (t := s) hc
        exact ⟨[], [], [], others, by rw [lines_break (by simp) hc]; rfl, hothers⟩
      | false =>
        rw [lines_cons hc, lines_cons hc]
        exact ⟨[], [c], (lines s).headD [], (lines s).tail, rfl, rfl⟩
    · obtain ⟨front, last, behind, others, hfirst, hboth⟩ := ih hnil
      have hhead : (t ++ s).head? = t.head? := List.head?_append_of_ne_nil t hnil
      cases hc : c.isLineBreak with
      | true =>
        by_cases hreturn : c = '\r' ∧ t.head? = some ('\n' : CodePoint)
        · obtain ⟨rfl, hfeed⟩ := hreturn
          refine ⟨front, last, behind, others, ?_, ?_⟩
          · rw [lines_return hfeed, hfirst]
          · rw [lines_return (hhead.trans hfeed), hboth]
        · refine ⟨[] :: front, last, behind, others, ?_, ?_⟩
          · rw [lines_break hreturn hc, hfirst]
            rfl
          · rw [lines_break (by rwa [hhead]) hc, hboth]
            rfl
      | false =>
        rw [lines_cons hc, lines_cons hc, hfirst, hboth]
        cases front with
        | nil => exact ⟨[], c :: last, behind, others, rfl, rfl⟩
        | cons line front => exact ⟨(c :: line) :: front, last, behind, others, rfl, rfl⟩

/-- A text begins with its first line, and the other lines are those of what stands behind a
boundary. -/
theorem exists_lines_eq_cons {t : Text} (ht : t ≠ []) : ∃ line boundary rest,
    t = line ++ boundary ++ rest ∧ lines t = line :: lines rest ∧
      (∀ c ∈ boundary, c.isLineBreak = true) ∧ (boundary = [] → rest = []) := by
  induction t with
  | nil => exact absurd rfl ht
  | cons c t ih =>
    cases hc : c.isLineBreak with
    | true =>
      by_cases hreturn : c = '\r' ∧ t.head? = some ('\n' : CodePoint)
      · obtain ⟨rfl, hfeed⟩ := hreturn
        obtain ⟨u, rfl⟩ := List.head?_eq_some_iff.mp hfeed
        refine ⟨[], ['\r', '\n'], u, rfl, ?_, by decide, nofun⟩
        rw [lines_return hfeed, lines_feed]
      · refine ⟨[], [c], t, rfl, lines_break hreturn hc, ?_, nofun⟩
        rw [List.forall_mem_singleton]
        exact hc
    | false =>
      rw [lines_cons hc]
      by_cases hnil : t = []
      · subst hnil
        exact ⟨[c], [], [], rfl, rfl, List.forall_mem_nil _, fun _ => rfl⟩
      · obtain ⟨line, boundary, rest, hsplit, hlines, hboundary⟩ := ih hnil
        refine ⟨c :: line, boundary, rest, ?_, ?_, hboundary⟩
        · rw [hsplit]
          rfl
        · rw [hlines]
          rfl

/-- No line has a boundary in it. -/
theorem isLineBreak_of_mem_lines {line : Text} (h : line ∈ lines t) :
    ∀ c ∈ line, c.isLineBreak = false := by
  induction t generalizing line with
  | nil => cases h
  | cons c t ih =>
    by_cases hreturn : c = '\r' ∧ t.head? = some ('\n' : CodePoint)
    · rw [hreturn.1, lines_return hreturn.2] at h
      exact ih h
    · cases hc : c.isLineBreak with
      | true =>
        rw [lines_break hreturn hc] at h
        rcases List.mem_cons.mp h with rfl | h
        · exact List.forall_mem_nil _
        · exact ih h
      | false =>
        rw [lines_cons hc] at h
        rcases List.mem_cons.mp h with rfl | h
        · refine List.forall_mem_cons.mpr ⟨hc, ?_⟩
          cases hlines : lines t with
          | nil => exact List.forall_mem_nil _
          | cons line others =>
            apply ih
            rw [hlines]
            exact List.mem_cons_self
        · exact ih (List.mem_of_mem_tail h)

/-- A text without a boundary is one line. -/
theorem lines_of_forall (ht : t ≠ []) (h : ∀ c ∈ t, c.isLineBreak = false) : lines t = [t] := by
  induction t with
  | nil => exact absurd rfl ht
  | cons c t ih =>
    rw [List.forall_mem_cons] at h
    rw [lines_cons h.1]
    by_cases hnil : t = []
    · subst hnil
      rfl
    · rw [ih hnil h.2]
      rfl

/-- Reading line feeds for carriage returns brings no other code points in. -/
theorem mem_withNewlines (h : c ∈ withNewlines t) : c ∈ t ∨ c = '\n' := by
  induction t with
  | nil => cases h
  | cons d t ih =>
    rw [withNewlines] at h
    split_ifs at h
    · exact (ih h).imp_left (List.mem_cons_of_mem d)
    · rcases List.mem_cons.mp h with rfl | h
      · exact Or.inr rfl
      · exact (ih h).imp_left (List.mem_cons_of_mem d)
    · rcases List.mem_cons.mp h with rfl | h
      · exact Or.inl List.mem_cons_self
      · exact (ih h).imp_left (List.mem_cons_of_mem d)

theorem withNewlines_of_forall_ne (h : ∀ c ∈ t, c ≠ ('\r' : CodePoint)) : withNewlines t = t := by
  induction t with
  | nil => rfl
  | cons c t ih =>
    rw [List.forall_mem_cons] at h
    rw [withNewlines, if_neg h.1, ih h.2]

/-- A carriage return, alone or before a line feed, ends a line as the line feed that it is read as
does. -/
theorem lines_withNewlines (t : Text) : lines (withNewlines t) = lines t := by
  induction t with
  | nil => rfl
  | cons c t ih =>
    rw [withNewlines]
    by_cases hc : c = '\r'
    · subst hc
      rw [if_pos rfl]
      by_cases hfeed : t.head? = some ('\n' : CodePoint)
      · rw [if_pos hfeed, ih, lines_return hfeed]
      · rw [if_neg hfeed, lines_feed, ih, lines_break (fun h => hfeed h.2) (by decide)]
    · rw [if_neg hc]
      cases hbreak : c.isLineBreak with
      | true =>
        rw [lines_break (fun h => hc h.1) hbreak, lines_break (fun h => hc h.1) hbreak, ih]
      | false => rw [lines_cons hbreak, lines_cons hbreak, ih]

theorem lines_eq_nil : lines t = [] ↔ t = [] := by
  constructor
  · intro h
    by_contra ht
    obtain ⟨front, last, -, -, hlines, -⟩ := exists_lines_append ht []
    simp [h] at hlines
  · rintro rfl
    rfl

end ZigAdvisor.Text
