import Mathlib.Tactic
import ZigAdvisor.Number.Reading

/-!
# Decimal digits

A natural number is written with the digits that read back as the number, of which the first is
no zero unless it is the only one. It takes as many digits as the power of ten above it says.
-/

namespace ZigAdvisor

theorem CodePoint.isAsciiDigit_ofChar (c : Char) :
    (CodePoint.ofChar c).isAsciiDigit = c.isDigit := by
  rw [Bool.eq_iff_iff]
  simp only [isAsciiDigit, Char.isDigit, Bool.and_eq_true, decide_eq_true_eq, ge_iff_le,
    UInt32.le_iff_toNat_le]
  exact Iff.rfl

theorem CodePoint.isAsciiDigit_iff {c : CodePoint} :
    c.isAsciiDigit = true ↔ 0x30 ≤ c.val ∧ c.val ≤ 0x39 := by
  simp [isAsciiDigit]

namespace Text

variable {n k : ℕ} {t : Text}

theorem isAsciiDigit_of_mem_ofNat {c : CodePoint} (h : c ∈ ofNat n) : c.isAsciiDigit = true := by
  obtain ⟨d, hd, rfl⟩ := List.mem_map.mp h
  rw [CodePoint.isAsciiDigit_ofChar]
  exact Nat.isDigit_of_mem_toDigits (by decide) (by decide) hd

theorem ofNat_ne_nil : ofNat n ≠ [] := by
  rw [ofNat, ne_eq, List.map_eq_nil_iff]
  exact Nat.toDigits_ne_nil

theorem length_ofNat_le_iff (hk : 0 < k) : (ofNat n).length ≤ k ↔ n < 10 ^ k := by
  rw [ofNat, List.length_map]
  exact Nat.length_toDigits_le_iff (by decide) hk

@[simp] theorem digitsValue_ofNat : digitsValue (ofNat n) = n := by
  have hfold : digitsValue (ofNat n) = Nat.ofDigitChars 10 (Nat.toDigits 10 n) 0 := by
    rw [digitsValue, ofNat, List.foldl_map, Nat.ofDigitChars_eq_foldl]
    refine List.foldl_ext _ _ _ fun m c _ => ?_
    rw [Nat.mul_comm]
    rfl
  rw [hfold, Nat.ofDigitChars_ten_toDigits]

theorem foldl_digits_lt (ht : ∀ c ∈ t, c.isAsciiDigit = true) (m : ℕ) :
    t.foldl (fun n c => n * 10 + (c.val - 0x30)) m < (m + 1) * 10 ^ t.length := by
  induction t generalizing m with
  | nil => simp
  | cons c t ih =>
    rw [List.forall_mem_cons] at ht
    have hc := CodePoint.isAsciiDigit_iff.mp ht.1
    calc List.foldl _ m (c :: t) < (m * 10 + (c.val - 0x30) + 1) * 10 ^ t.length := ih ht.2 _
      _ ≤ (m + 1) * 10 * 10 ^ t.length := by
        refine Nat.mul_le_mul_right _ ?_
        omega
      _ = (m + 1) * 10 ^ (c :: t).length := by rw [List.length_cons, pow_succ]; ring

theorem digitsValue_lt (ht : ∀ c ∈ t, c.isAsciiDigit = true) :
    digitsValue t < 10 ^ t.length := by
  have h := foldl_digits_lt ht 0
  rwa [Nat.zero_add, Nat.one_mul] at h

/-- A number does not have more digits than the digits it was read from. -/
theorem length_ofNat_digitsValue_le (ht : ∀ c ∈ t, c.isAsciiDigit = true) (hne : t ≠ []) :
    (ofNat (digitsValue t)).length ≤ t.length :=
  (length_ofNat_le_iff (List.length_pos_of_ne_nil hne)).mpr (digitsValue_lt ht)

theorem ofNat_zero : ofNat 0 = [('0' : CodePoint)] := rfl

theorem head?_ofNat (h : 0 < n) : (ofNat n).head? ≠ some ('0' : CodePoint) := by
  intro hhead
  obtain ⟨rest, hrest⟩ := List.head?_eq_some_iff.mp hhead
  have hdigits : ∀ c ∈ rest, c.isAsciiDigit = true := fun c hc =>
    isAsciiDigit_of_mem_ofNat (n := n) (hrest ▸ List.mem_cons_of_mem _ hc)
  have hvalue : digitsValue rest = n := by
    rw [← digitsValue_ofNat (n := n), hrest]
    rfl
  -- Without the zero the same number would take fewer digits than it does.
  have hlt : n < 10 ^ rest.length := hvalue ▸ digitsValue_lt hdigits
  cases hnil : rest with
  | nil =>
    rw [hnil] at hlt
    simp at hlt
    omega
  | cons c cs =>
    have hlen := (length_ofNat_le_iff (by rw [hnil]; simp)).mpr hlt
    rw [hrest, List.length_cons] at hlen
    omega

end Text

end ZigAdvisor
