import ZigAdvisor.Number.Written
import ZigAdvisor.Proofs.Number.Digits

/-!
# The digits of the shortest decimal

The shortest decimal of a positive number is made of decimal digits of which the first is no zero:
whatever whole number of units is taken for it is positive, because zero is below the interval and
because the last resort is measured in units that are no larger than the number.
-/

namespace ZigAdvisor

variable {n : ℕ}

theorem Decimal.text_digitsOf : Decimal.text (Double.digitsOf n) = Text.ofNat n := by
  rw [Decimal.text, Double.digitsOf, Text.ofNat, List.map_map]
  refine List.map_congr_left fun c hc => ?_
  have hdigit : c.isDigit = true := Nat.isDigit_of_mem_toDigits (by decide) (by decide) hc
  rw [← CodePoint.isAsciiDigit_ofChar, CodePoint.isAsciiDigit_iff] at hdigit
  have hval : (CodePoint.ofChar c).val = c.toNat := rfl
  have hsame : 0x30 + (c.toNat - 0x30) = (CodePoint.ofChar c).val := by omega
  rw [Function.comp_apply, hsame, CodePoint.ofNat, dif_pos (CodePoint.ofChar c).isLt]

theorem Double.length_digitsOf : (digitsOf n).length = (Text.ofNat n).length := by
  rw [← Decimal.text_digitsOf, Decimal.text, List.length_map]

structure Decimal.Leads (d : Decimal) : Prop where
  ne_nil : d.digits ≠ []
  digit : ∀ c ∈ Decimal.text d.digits, c.isAsciiDigit = true
  head : (Decimal.text d.digits).head? ≠ some ('0' : CodePoint)

theorem Decimal.leads_digitsOf (hn : 0 < n) (point : ℤ) : Leads ⟨Double.digitsOf n, point⟩ where
  ne_nil h := by
    have hlength : (Double.digitsOf n).length = 0 := List.length_eq_zero_iff.mpr h
    rw [Double.length_digitsOf, List.length_eq_zero_iff] at hlength
    exact Text.ofNat_ne_nil hlength
  digit := by
    rw [text_digitsOf]
    exact fun c => Text.isAsciiDigit_of_mem_ofNat
  head := by
    rw [text_digitsOf]
    exact Text.head?_ofNat hn

theorem Decimal.leads_one (point : ℤ) : Leads ⟨[1], point⟩ where
  ne_nil := by simp
  digit := by
    change ∀ c ∈ Decimal.text [1], c.isAsciiDigit = true
    decide
  head := by
    change (Decimal.text [1]).head? ≠ some ('0' : CodePoint)
    decide

theorem div_le_roundDiv (n d : ℕ) : n / d ≤ roundDiv n d := by
  unfold roundDiv
  dsimp only
  split
  · exact le_rfl
  · omega

/-- A quotient that is at most a number is at most that number when rounded. -/
theorem roundDiv_le {n d k : ℕ} (h : n ≤ k * d) : roundDiv n d ≤ k := by
  rcases Nat.eq_zero_or_pos d with rfl | hd
  · obtain rfl := Nat.le_zero.mp h
    exact Nat.zero_le k
  · have hquotient : n / d ≤ k := Nat.div_le_of_le_mul (Nat.mul_comm k d ▸ h)
    have hsplit := Nat.div_add_mod n d
    unfold roundDiv
    dsimp only
    split_ifs with hdown
    · exact hquotient
    · by_contra hlt
      have hk : n / d = k := by omega
      rw [hk, Nat.mul_comm] at hsplit
      omega

namespace Double

theorem tenTo_eq (n : ℕ) : tenTo n = 10 ^ n := rfl

theorem tenTo_pos (n : ℕ) : 0 < tenTo n := Nat.pow_pos (by decide)

theorem lt_tenTo_length_digitsOf : n < tenTo (digitsOf n).length := by
  rw [length_digitsOf, tenTo_eq]
  have hpos : 0 < (Text.ofNat n).length := List.length_pos_of_ne_nil Text.ofNat_ne_nil
  exact (Text.length_ofNat_le_iff hpos).mp le_rfl

theorem tenTo_le_of_lt_length {k : ℕ} (hk : k < (digitsOf n).length) (hn : 0 < n) :
    tenTo k ≤ n := by
  rw [length_digitsOf] at hk
  cases k with
  | zero => exact hn
  | succ k =>
    by_contra h
    have hle := (Text.length_ofNat_le_iff (Nat.succ_pos k)).mpr (Nat.not_le.mp h)
    omega

namespace Interval

variable {i : Interval} {power : ℤ}

structure Positive (i : Interval) : Prop where
  low : 0 < i.low
  value : 0 < i.value
  denominator : 0 < i.denominator

theorem Positive.inUnits (h : i.Positive) (power : ℤ) : (i.inUnits power).Positive := by
  have hten := tenTo_pos power.natAbs
  unfold Interval.inUnits
  split
  · exact ⟨h.low, h.value, Nat.mul_pos h.denominator hten⟩
  · exact ⟨Nat.mul_pos h.low hten, Nat.mul_pos h.value hten, h.denominator⟩

theorem Positive.of_holds (h : i.Positive) (hn : i.holds n = true) : 0 < n := by
  rcases Nat.eq_zero_or_pos n with rfl | hpos
  · have hlow := h.low
    unfold holds at hn
    simp at hn
    omega
  · exact hpos

theorem Positive.of_nearest? (h : i.Positive) (hn : i.nearest? = some n) : 0 < n := by
  unfold nearest? at hn
  dsimp only at hn
  split at hn
  · next hbelow _ =>
    have hquotient := h.of_holds hbelow
    have hround := div_le_roundDiv i.value i.denominator
    rw [← Option.some.inj hn]
    omega
  · next hbelow _ =>
    rw [← Option.some.inj hn]
    exact h.of_holds hbelow
  · rw [← Option.some.inj hn]
    exact Nat.succ_pos _
  · cases hn

/-- Units below the highest place of the number are no larger than the number. -/
theorem Positive.denominator_le (h : i.Positive) (hpower : power < i.point) :
    (i.inUnits power).denominator ≤ (i.inUnits power).value := by
  unfold Interval.inUnits
  unfold point at hpower
  dsimp only at hpower
  by_cases hwhole : i.value / i.denominator = 0
  · rw [if_pos hwhole] at hpower
    have hlength : 0 < (digitsOf (i.denominator / i.value)).length := by
      rw [length_digitsOf]
      exact List.length_pos_of_ne_nil Text.ofNat_ne_nil
    rw [if_neg (by omega)]
    -- The quotient the other way round has as many digits as places are missing.
    have hlt : i.denominator < tenTo (digitsOf (i.denominator / i.value)).length * i.value :=
      (Nat.div_lt_iff_lt_mul h.value).mp lt_tenTo_length_digitsOf
    have hmono : tenTo (digitsOf (i.denominator / i.value)).length ≤ tenTo power.natAbs := by
      rw [tenTo_eq, tenTo_eq]
      exact Nat.pow_le_pow_right (by decide) (by omega)
    calc i.denominator ≤ tenTo (digitsOf (i.denominator / i.value)).length * i.value := hlt.le
      _ ≤ tenTo power.natAbs * i.value := Nat.mul_le_mul_right _ hmono
      _ = i.value * tenTo power.natAbs := Nat.mul_comm _ _
  · rw [if_neg hwhole] at hpower
    have hpos : 0 < i.value / i.denominator := Nat.pos_of_ne_zero hwhole
    split
    · have hten : tenTo power.natAbs ≤ i.value / i.denominator :=
        tenTo_le_of_lt_length (by omega) hpos
      calc i.denominator * tenTo power.natAbs ≤ i.denominator * (i.value / i.denominator) :=
            Nat.mul_le_mul_left _ hten
        _ ≤ i.value := Nat.mul_div_le _ _
    · have hle : i.denominator ≤ i.value := by
        by_contra hlt
        exact hwhole (Nat.div_eq_of_lt (Nat.not_le.mp hlt))
      calc i.denominator ≤ i.value := hle
        _ ≤ i.value * tenTo power.natAbs := Nat.le_mul_of_pos_right _ (tenTo_pos _)

theorem Positive.roundDiv_pos (h : i.Positive) (hpower : power < i.point) :
    0 < roundDiv (i.inUnits power).value (i.inUnits power).denominator := by
  have hquotient : 0 < (i.inUnits power).value / (i.inUnits power).denominator :=
    Nat.div_pos (h.denominator_le hpower) (h.inUnits power).denominator
  exact hquotient.trans_le (div_le_roundDiv _ _)

theorem Positive.leads_shortestFrom (h : i.Positive) (more count : ℕ) (hcount : 0 < count) :
    (i.shortestFrom more count).Leads := by
  induction more generalizing count with
  | zero =>
    rw [shortestFrom]
    exact Decimal.leads_digitsOf (h.roundDiv_pos (by omega)) _
  | succ more ih =>
    rw [shortestFrom]
    split
    · next n hn =>
      split
      · exact Decimal.leads_one _
      · exact Decimal.leads_digitsOf ((h.inUnits _).of_nearest? hn) _
    · exact ih (count + 1) (Nat.succ_pos count)

end Interval

theorem positive_interval {mantissa : ℕ} (h : 0 < mantissa) (exponent : ℕ) :
    (interval mantissa exponent).Positive := by
  have hscale : 0 < 2 ^ exponent := Nat.pow_pos (by decide)
  have hunit (k : ℕ) : 0 < 1 <<< k := by
    rw [Nat.one_shiftLeft]
    exact Nat.two_pow_pos k
  unfold interval
  refine ⟨?_, ?_, ?_⟩
  · dsimp only
    rw [Nat.shiftLeft_eq]
    refine Nat.mul_pos ?_ hscale
    split <;> omega
  · dsimp only
    rw [Nat.shiftLeft_eq]
    exact Nat.mul_pos (by omega) hscale
  · exact hunit 1076

theorem leads_shortest {mantissa : ℕ} (h : 0 < mantissa) (exponent : ℕ) :
    (shortest mantissa exponent).Leads :=
  (positive_interval h exponent).leads_shortestFrom 16 1 (by decide)

end Double

end ZigAdvisor
