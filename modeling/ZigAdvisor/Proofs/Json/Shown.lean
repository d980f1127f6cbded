import Mathlib.Data.List.TakeWhile
import ZigAdvisor.Json.Shown
import ZigAdvisor.Proofs.Json.Printable
import ZigAdvisor.Proofs.Text.Surrogates
import ZigAdvisor.Proofs.Text.Word
import ZigAdvisor.Text.Case

/-!
# Shown values hold no surrogates

Whatever a message quotes, no surrogate gets into it: a surrogate is not printable, and what is not
printable is shown by its number. The one exception is a string that is shown as it is.
-/

namespace ZigAdvisor

namespace CodePoint

variable {c : CodePoint}

theorem not_isSurrogate_of_lt (h : c.val < 0xD800) : ¬ c.IsSurrogate := by
  rintro ⟨hlow, -⟩
  omega

theorem not_isSurrogate_of_isAscii (h : c.isAscii = true) : ¬ c.IsSurrogate := by
  have hlt : c.val < 0x80 := of_decide_eq_true h
  exact not_isSurrogate_of_lt (by omega)

theorem not_isSurrogate_of_isPrintable (h : c.isPrintable = true) : ¬ c.IsSurrogate := by
  have htable : ∀ r ∈ Text.printableTable, r.2 < 0xD800 ∨ 0xDFFF < r.1 := by decide +kernel
  obtain ⟨r, hr, hfirst, hlast⟩ := Ranges.mem_of_contains h
  rintro ⟨hlow, hhigh⟩
  have hskips := htable r hr
  omega

end CodePoint

namespace Text

variable {t u : Text}

theorem Printable.plain (h : Printable t) : Plain t :=
  fun c hc => CodePoint.not_isSurrogate_of_isAscii (h c hc).isAscii

theorem plain_of_isAscii (h : t.isAscii = true) : Plain t :=
  fun c hc => CodePoint.not_isSurrogate_of_isAscii (List.all_eq_true.mp h c hc)

@[simp] theorem plain_hex (width n : ℕ) : Plain (hex width n) := (printable_hex width n).plain

/-- Digits in upper case. -/
@[simp] theorem plain_upper_hex (width n : ℕ) : Plain (upper (hex width n)) := by
  have hdigit : ∀ n < 16, Plain (hexDigit n).toUpper := by decide
  induction width with
  | zero => exact plain_nil
  | succ width ih =>
    rw [hex, upper, List.flatMap_cons]
    exact plain_append.mpr ⟨hdigit _ (Nat.mod_lt _ (by decide)), ih⟩

@[simp] theorem plain_escapedPoint (c : CodePoint) : Plain (escapedPoint c) := by
  unfold escapedPoint
  split_ifs <;> simp

theorem plain_asciiFault? (h : asciiFault? t = some u) : Plain u := by
  unfold asciiFault? at h
  split at h
  · cases h
  · rw [← Option.some.inj h]
    simp only [concat_cons, concat_nil, plain_append, plain_ofString, plain_nil, and_true, true_and]
    split <;> simp

theorem asciiFault?_eq_none_iff : asciiFault? t = none ↔ t.isAscii = true := by
  rw [asciiFault?, List.span_eq_takeWhile_dropWhile]
  cases h : t.dropWhile CodePoint.isAscii with
  | nil => exact iff_of_true rfl (List.all_eq_true.mpr (List.dropWhile_eq_nil_iff.mp h))
  | cons c rest =>
    refine iff_of_false (by simp) fun hascii => ?_
    rw [List.dropWhile_eq_nil_iff.mpr (List.all_eq_true.mp hascii)] at h
    cases h

theorem plain_quotedPoint {mark : CodePoint} (hmark : ¬ mark.IsSurrogate) (c : CodePoint) :
    Plain (quotedPoint mark c) := by
  have hbackslash : ¬ CodePoint.backslash.IsSurrogate := by decide
  unfold quotedPoint
  split_ifs with hescaped _ _ _ hprintable
  · refine plain_cons.mpr ⟨hbackslash, plain_cons.mpr ⟨?_, plain_nil⟩⟩
    rcases hescaped with rfl | rfl
    · exact hmark
    · exact hbackslash
  · exact plain_ofString _
  · exact plain_ofString _
  · exact plain_ofString _
  · exact plain_cons.mpr ⟨CodePoint.not_isSurrogate_of_isPrintable hprintable, plain_nil⟩
  · exact plain_escapedPoint c

@[simp] theorem plain_quoted (t : Text) : Plain t.quoted := by
  have hmark : ¬ t.quoteMark.IsSurrogate := by
    unfold quoteMark
    split_ifs <;> decide
  refine plain_cons.mpr ⟨hmark, plain_append.mpr ⟨?_, plain_cons.mpr ⟨hmark, plain_nil⟩⟩⟩
  intro c hc
  obtain ⟨d, -, hd⟩ := List.mem_flatMap.mp hc
  exact plain_quotedPoint hmark d c hd

end Text

@[simp] theorem Double.plain_written (d : Double) : d.written.Plain := by
  cases d with
  | nan => decide
  | infinity negative => cases negative <;> decide
  | finite negative mantissa exponent =>
    exact (Json.printable_writeDouble (.finite negative mantissa exponent)).plain

namespace Json

open Text

mutual

theorem plain_quoted : ∀ j : Json, j.quoted.Plain
  | null => by rw [quoted]; exact plain_ofString _
  | bool b => by rw [quoted]; split <;> exact plain_ofString _
  | int i => by rw [quoted]; exact plain_ofInt i
  | float d => by rw [quoted]; exact d.plain_written
  | str t => by rw [quoted]; exact t.plain_quoted
  | arr [] => by rw [quoted]; exact plain_ofString _
  | arr (item :: items) => by simp [quoted, plain_quoted item, plain_quotedItems items]
  | obj [] => by rw [quoted]; exact plain_ofString _
  | obj ((key, value) :: members) => by
    simp [quoted, plain_quoted value, plain_quotedMembers members]

theorem plain_quotedItems : ∀ items : List Json, (quotedItems items).Plain
  | [] => by rw [quotedItems]; exact plain_nil
  | item :: items => by simp [quotedItems, plain_quoted item, plain_quotedItems items]

theorem plain_quotedMembers : ∀ members : List (Text × Json), (quotedMembers members).Plain
  | [] => by rw [quotedMembers]; exact plain_nil
  | (key, value) :: members => by
    simp [quotedMembers, plain_quoted value, plain_quotedMembers members]

end

/-- A value that is no string is shown without surrogates, and a string as it is. -/
theorem unpaired_shown {j : Json} (h : ∀ t, j = str t → t.Unpaired) : j.shown.Unpaired := by
  cases j with
  | str t => exact h t rfl
  | _ => exact (plain_quoted _).unpaired

theorem plain_spread (j : Json) : j.spread.Plain := by
  intro c hc
  rcases laid_write (.indented 0) j c hc with hprintable | ⟨-, rfl⟩
  · exact CodePoint.not_isSurrogate_of_isAscii hprintable.isAscii
  · decide

end Json

end ZigAdvisor
