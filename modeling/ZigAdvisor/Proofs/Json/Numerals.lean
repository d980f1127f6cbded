import ZigAdvisor.Proofs.Json.Reading
import ZigAdvisor.Proofs.Number.Literal

/-!
# Whole numbers that are read back

What follows a number tells where it ends: nothing that could go on with it. Then the reader takes
exactly the digits of a whole number, gives back the number that was written, and refuses it if and
only if it has too many digits.
-/

namespace ZigAdvisor.Json

open Text (IsWhole)

variable {digits whole rest : Text} {c : CodePoint}

def EndsNumber (rest : Text) : Prop :=
  ∀ c ∈ rest.head?, c.isAsciiDigit = false ∧ c ≠ '.' ∧ c ≠ 'e' ∧ c ≠ 'E'

theorem endsNumber_nil : EndsNumber [] := by simp [EndsNumber]

theorem endsNumber_cons (hdigit : c.isAsciiDigit = false) (hpoint : c ≠ '.') (he : c ≠ 'e')
    (hE : c ≠ 'E') : EndsNumber (c :: rest) := by
  intro d hd
  obtain rfl : c = d := Option.some.inj hd
  exact ⟨hdigit, hpoint, he, hE⟩

theorem splitDigits_append (hdigits : ∀ c ∈ digits, c.isAsciiDigit = true)
    (hrest : EndsNumber rest) : Text.splitDigits (digits ++ rest) = (digits, rest) := by
  have htake : rest.takeWhile CodePoint.isAsciiDigit = [] := by
    cases rest with
    | nil => rfl
    | cons c rest => rw [List.takeWhile_cons_of_neg (by simp [(hrest c rfl).1])]
  have hdrop : rest.dropWhile CodePoint.isAsciiDigit = rest := by
    cases rest with
    | nil => rfl
    | cons c rest => rw [List.dropWhile_cons_of_neg (by simp [(hrest c rfl).1])]
  rw [splitDigits_eq, List.takeWhile_append_of_pos hdigits, List.dropWhile_append_of_pos hdigits,
    htake, hdrop, List.append_nil]

theorem splitWhole_append_rest (h : IsWhole whole) (hrest : EndsNumber rest) :
    splitWhole (whole ++ rest) = (whole, rest) := by
  obtain ⟨c, digits, rfl⟩ := List.exists_cons_of_ne_nil h.ne_nil
  rw [List.cons_append, splitWhole]
  split_ifs with hzero
  · obtain rfl : digits = [] := (List.cons.inj (h.head (by rw [hzero]; rfl))).2
    rfl
  · rw [← List.cons_append]
    exact splitDigits_append h.digit hrest

theorem splitFraction_of_ends (hrest : EndsNumber rest) : splitFraction rest = ([], rest) := by
  cases rest with
  | nil => rfl
  | cons c rest => rw [splitFraction, if_neg (hrest c rfl).2.1]

theorem splitPower_of_ends (hrest : EndsNumber rest) : splitPower rest = (none, rest) := by
  cases rest with
  | nil => rfl
  | cons c rest =>
    obtain ⟨-, -, he, hE⟩ := hrest c rfl
    rw [splitPower, if_neg (by simp [he, hE])]

/-- A whole number is read or refused by how many digits it has. -/
theorem readUnsigned_whole (negative : Bool) (start : Text) (h : IsWhole whole)
    (hrest : EndsNumber rest) :
    readUnsigned negative start (whole ++ rest) =
      if Text.maxDigits < whole.length then .error (.longInteger whole.length)
      else .ok (int (if negative then -(Text.digitsValue whole : ℤ) else Text.digitsValue whole),
        rest) := by
  have hempty : whole.isEmpty = false := by simpa using h.ne_nil
  unfold readUnsigned
  simp only [splitWhole_append_rest h hrest, splitFraction_of_ends hrest, splitPower_of_ends hrest,
    hempty, List.isEmpty_nil, Option.isNone_none, Bool.and_self, if_true, Bool.false_eq_true,
    if_false]

theorem not_startsWith_of_head {w t : Text} {d : CodePoint} (h : w.head? = some d) (hne : c ≠ d) :
    Text.startsWith (c :: t) w = false := by
  obtain ⟨w, rfl⟩ := List.head?_eq_some_iff.mp h
  simp [Text.startsWith, List.isPrefixOf, Ne.symm hne]

theorem find?_words_of_digit (hc : c.isAsciiDigit = true) (t : Text) :
    words.find? (fun w => Text.startsWith (c :: t) w.1) = none := by
  rw [List.find?_eq_none]
  intro w hw
  have hhead : ∃ d, w.1.head? = some d ∧ d.isAsciiDigit = false := by
    revert w
    decide
  obtain ⟨d, hd, hdigit⟩ := hhead
  have hne : c ≠ d := by
    rintro rfl
    rw [hc] at hdigit
    cases hdigit
  simp [not_startsWith_of_head hd hne]

/-- A whole number without a sign is read as such, whatever is looked for before. -/
theorem readScalar_whole (h : IsWhole whole) (hrest : EndsNumber rest) :
    readScalar (whole ++ rest) =
      if Text.maxDigits < whole.length then .error (.longInteger whole.length)
      else .ok (int (Text.digitsValue whole), rest) := by
  have hread := readUnsigned_whole false (whole ++ rest) h hrest
  obtain ⟨c, digits, rfl⟩ := List.exists_cons_of_ne_nil h.ne_nil
  have hc : c.isAsciiDigit = true := h.digit c List.mem_cons_self
  have hquote : c ≠ .quote := by
    rintro rfl
    exact absurd hc (by decide)
  have hminus : c ≠ '-' := by
    rintro rfl
    exact absurd hc (by decide)
  rw [List.cons_append] at hread ⊢
  simp only [readScalar, if_neg hquote, find?_words_of_digit hc, readNumber, if_neg hminus, hread,
    Bool.false_eq_true, if_false]

/-- A minus with a digit behind it is not the beginning of a word. -/
theorem find?_words_of_minus (hc : c.isAsciiDigit = true) (t : Text) :
    words.find? (fun w => Text.startsWith (('-' : CodePoint) :: c :: t) w.1) = none := by
  rw [List.find?_eq_none]
  intro w hw
  have hhead : w = (Text.ofString "-Infinity", float (.infinity true)) ∨
      ∃ d, w.1.head? = some d ∧ ('-' : CodePoint) ≠ d := by
    simp only [words, List.mem_cons, List.not_mem_nil, or_false] at hw
    rcases hw with rfl | rfl | rfl | rfl | rfl | rfl
    · exact .inr ⟨'n', rfl, by decide⟩
    · exact .inr ⟨'t', rfl, by decide⟩
    · exact .inr ⟨'f', rfl, by decide⟩
    · exact .inr ⟨'N', rfl, by decide⟩
    · exact .inr ⟨'I', rfl, by decide⟩
    · exact .inl rfl
  rcases hhead with rfl | ⟨d, hd, hne⟩
  · have hne : c ≠ 'I' := by
      rintro rfl
      exact absurd hc (by decide)
    have hword : Text.startsWith (c :: t) "Infinity" = false := not_startsWith_of_head rfl hne
    change ¬ Text.startsWith (c :: t) "Infinity" = true
    simp [hword]
  · simp [not_startsWith_of_head hd hne]

theorem readScalar_negative (h : IsWhole whole) (hrest : EndsNumber rest) :
    readScalar (('-' : CodePoint) :: (whole ++ rest)) =
      if Text.maxDigits < whole.length then .error (.longInteger whole.length)
      else .ok (int (-(Text.digitsValue whole : ℤ)), rest) := by
  have hread := readUnsigned_whole true (('-' : CodePoint) :: (whole ++ rest)) h hrest
  have hquote : ('-' : CodePoint) ≠ .quote := by decide
  obtain ⟨c, digits, rfl⟩ := List.exists_cons_of_ne_nil h.ne_nil
  have hwords := find?_words_of_minus (h.digit c List.mem_cons_self) (digits ++ rest)
  rw [List.cons_append] at hread ⊢
  simp only [readScalar, if_neg hquote, hwords, readNumber, if_true, hread]

theorem readScalar_ofInt {i : ℤ} (h : (Text.ofNat i.natAbs).length ≤ Text.maxDigits)
    (hrest : EndsNumber rest) : readScalar (Text.ofInt i ++ rest) = .ok (int i, rest) := by
  unfold Text.ofInt
  split_ifs with hi
  · rw [List.cons_append, readScalar_negative Text.isWhole_ofNat hrest, if_neg (Nat.not_lt.mpr h),
      Text.digitsValue_ofNat]
    have hvalue : -(i.natAbs : ℤ) = i := by omega
    rw [hvalue]
  · rw [readScalar_whole Text.isWhole_ofNat hrest, if_neg (Nat.not_lt.mpr h),
      Text.digitsValue_ofNat]
    have hvalue : (i.natAbs : ℤ) = i := by omega
    rw [hvalue]

end ZigAdvisor.Json
