import Mathlib.Tactic
import ZigAdvisor.Rpc.Session

/-!
# Streams of lines

A stream is cut at line feeds. What stands before a line feed and what stands behind it are cut
independently, so the lines of a stream that ends with a line feed are not touched by what follows,
and lines that are printed one after the other are the lines of what is printed.
-/

namespace ZigAdvisor

namespace Text

variable {mark : CodePoint} {t x y : Text}

theorem pieces_ne_nil : pieces mark t ≠ [] := by
  cases t with
  | nil => simp [pieces]
  | cons c rest =>
    rw [pieces]
    split
    · simp
    · split <;> simp

theorem pieces_cons_mark : pieces mark (mark :: t) = [] :: pieces mark t := by
  rw [pieces, if_pos rfl]

theorem pieces_cons {c : CodePoint} (hc : c ≠ mark) :
    pieces mark (c :: t) = (c :: (pieces mark t).headD []) :: (pieces mark t).tail := by
  rw [pieces, if_neg hc]
  cases pieces mark t <;> rfl

theorem pieces_append_mark : pieces mark (x ++ mark :: y) = pieces mark x ++ pieces mark y := by
  induction x with
  | nil => rw [List.nil_append, pieces_cons_mark]; rfl
  | cons c x ih =>
    rw [List.cons_append]
    by_cases hc : c = mark
    · rw [hc, pieces_cons_mark, pieces_cons_mark, ih, List.cons_append]
    · rw [pieces_cons hc, pieces_cons hc, ih]
      have hne : pieces mark x ≠ [] := pieces_ne_nil
      obtain ⟨piece, others, hx⟩ := List.exists_cons_of_ne_nil hne
      rw [hx]
      rfl

theorem pieces_of_forall_ne (h : ∀ c ∈ t, c ≠ mark) : pieces mark t = [t] := by
  induction t with
  | nil => rfl
  | cons c t ih =>
    rw [List.forall_mem_cons] at h
    rw [pieces_cons h.1, ih h.2]
    rfl

theorem streamLines_append_newline :
    streamLines (x ++ ('\n' : CodePoint) :: y) = splitAtNewlines x ++ streamLines y := by
  have hsplit : splitAtNewlines (x ++ ('\n' : CodePoint) :: y) =
      splitAtNewlines x ++ splitAtNewlines y := pieces_append_mark
  have hne : splitAtNewlines y ≠ [] := pieces_ne_nil
  have hlast : (splitAtNewlines x ++ splitAtNewlines y).getLast? = (splitAtNewlines y).getLast? :=
    List.getLast?_append_of_ne_nil _ hne
  rw [streamLines, streamLines, hsplit, hlast]
  split
  · rw [List.dropLast_append_of_ne_nil hne]
  · rfl

@[simp] theorem streamLines_nil : streamLines [] = [] := rfl

/-- What follows a line feed does not change the lines before it. -/
theorem streamLines_append (hx : x.getLast? = some ('\n' : CodePoint)) :
    streamLines (x ++ y) = streamLines x ++ streamLines y := by
  obtain ⟨front, rfl⟩ := List.getLast?_eq_some_iff.mp hx
  have hfront : streamLines (front ++ [('\n' : CodePoint)]) = splitAtNewlines front := by
    rw [streamLines_append_newline, streamLines_nil, List.append_nil]
  rw [List.append_assoc, List.singleton_append, streamLines_append_newline, hfront]

end Text

namespace Rpc

theorem printed_cons (line : Text) (lines : List Text) :
    printed (line :: lines) = line ++ ('\n' : CodePoint) :: printed lines := by
  rw [printed, List.flatMap_cons, List.append_assoc]
  rfl

theorem printed_append (front back : List Text) :
    printed (front ++ back) = printed front ++ printed back :=
  List.flatMap_append

/-- What is printed falls apart into the lines that it was put together from. -/
theorem splitAtNewlines_printed {lines : List Text}
    (h : ∀ line ∈ lines, ∀ c ∈ line, c ≠ ('\n' : CodePoint)) :
    Text.splitAtNewlines (printed lines) = lines ++ [[]] := by
  induction lines with
  | nil => rfl
  | cons line lines ih =>
    rw [List.forall_mem_cons] at h
    rw [Text.splitAtNewlines] at ih
    rw [printed_cons, Text.splitAtNewlines, Text.pieces_append_mark, ih h.2,
      Text.pieces_of_forall_ne h.1]
    rfl

end Rpc

end ZigAdvisor
