import ZigAdvisor.Json.Writer
import ZigAdvisor.Proofs.Number.Shortest

/-!
# Number literals

The literals of the JSON grammar: a sign, a whole number without needless zeros in front, and
perhaps a fraction and an exponent. Every whole number is written as one, and every finite number
of double precision, whose shortest decimal does not begin with a zero.
-/

namespace ZigAdvisor

namespace Text

variable {t u whole fraction power : Text} {n : ℕ}

structure AreDigits (t : Text) : Prop where
  ne_nil : t ≠ []
  digit : ∀ c ∈ t, c.isAsciiDigit = true

structure IsWhole (t : Text) : Prop extends AreDigits t where
  head : t.head? = some ('0' : CodePoint) → t = [('0' : CodePoint)]

inductive IsFraction : Text → Prop
  | none : IsFraction []
  | some {digits : Text} (h : AreDigits digits) : IsFraction (('.' : CodePoint) :: digits)

inductive IsPower : Text → Prop
  | none : IsPower []
  | unsigned {mark : CodePoint} {digits : Text} (hmark : mark = 'e' ∨ mark = 'E')
      (h : AreDigits digits) : IsPower (mark :: digits)
  | signed {mark sign : CodePoint} {digits : Text} (hmark : mark = 'e' ∨ mark = 'E')
      (hsign : sign = '+' ∨ sign = '-') (h : AreDigits digits) : IsPower (mark :: sign :: digits)

inductive IsUnsigned : Text → Prop
  | mk {whole fraction power : Text} (hwhole : IsWhole whole) (hfraction : IsFraction fraction)
      (hpower : IsPower power) : IsUnsigned (whole ++ fraction ++ power)

inductive IsNumber : Text → Prop
  | plain {t : Text} (h : IsUnsigned t) : IsNumber t
  | negative {t : Text} (h : IsUnsigned t) : IsNumber (('-' : CodePoint) :: t)

theorem AreDigits.append (ht : AreDigits t) (hu : ∀ c ∈ u, c.isAsciiDigit = true) :
    AreDigits (t ++ u) where
  ne_nil := List.append_ne_nil_of_left_ne_nil ht.ne_nil u
  digit := List.forall_mem_append.mpr ⟨ht.digit, hu⟩

theorem AreDigits.prepend (ht : AreDigits t) (hu : ∀ c ∈ u, c.isAsciiDigit = true) :
    AreDigits (u ++ t) where
  ne_nil := List.append_ne_nil_of_right_ne_nil u ht.ne_nil
  digit := List.forall_mem_append.mpr ⟨hu, ht.digit⟩

theorem IsWhole.of_head (ht : AreDigits t) (h : t.head? ≠ some ('0' : CodePoint)) : IsWhole t where
  toAreDigits := ht
  head hzero := absurd hzero h

/-- A number is made of digits and a few marks. -/
theorem IsUnsigned.forall_mem {P : CodePoint → Prop} (h : IsUnsigned t)
    (hdigit : ∀ c : CodePoint, c.isAsciiDigit = true → P c) (hmark : ∀ c ∈ ofString "-+.eE", P c) :
    ∀ c ∈ t, P c := by
  have hdigits {u : Text} (hu : AreDigits u) : ∀ c ∈ u, P c := fun c hc => hdigit c (hu.digit c hc)
  have hletter {mark : CodePoint} (h : mark = 'e' ∨ mark = 'E') : P mark := by
    rcases h with rfl | rfl <;> exact hmark _ (by decide)
  have hsign {sign : CodePoint} (h : sign = '+' ∨ sign = '-') : P sign := by
    rcases h with rfl | rfl <;> exact hmark _ (by decide)
  obtain ⟨hwhole, hfraction, hpower⟩ := h
  rw [List.forall_mem_append, List.forall_mem_append]
  refine ⟨⟨hdigits hwhole.toAreDigits, ?_⟩, ?_⟩
  · cases hfraction with
    | none => simp
    | some hmore => exact List.forall_mem_cons.mpr ⟨hmark _ (by decide), hdigits hmore⟩
  · cases hpower with
    | none => simp
    | unsigned h hmore => exact List.forall_mem_cons.mpr ⟨hletter h, hdigits hmore⟩
    | signed h h' hmore =>
      exact List.forall_mem_cons.mpr ⟨hletter h, List.forall_mem_cons.mpr ⟨hsign h', hdigits hmore⟩⟩

theorem IsNumber.forall_mem {P : CodePoint → Prop} (h : IsNumber t)
    (hdigit : ∀ c : CodePoint, c.isAsciiDigit = true → P c) (hmark : ∀ c ∈ ofString "-+.eE", P c) :
    ∀ c ∈ t, P c := by
  cases h with
  | plain hunsigned => exact hunsigned.forall_mem hdigit hmark
  | negative hunsigned =>
    exact List.forall_mem_cons.mpr ⟨hmark _ (by decide), hunsigned.forall_mem hdigit hmark⟩

theorem areDigits_ofNat : AreDigits (ofNat n) := ⟨ofNat_ne_nil, fun _ => isAsciiDigit_of_mem_ofNat⟩

theorem isWhole_zero : IsWhole [('0' : CodePoint)] := ⟨⟨by simp, by decide⟩, fun _ => rfl⟩

theorem isWhole_ofNat : IsWhole (ofNat n) := by
  rcases Nat.eq_zero_or_pos n with rfl | hn
  · rw [ofNat_zero]
    exact isWhole_zero
  · exact IsWhole.of_head areDigits_ofNat (head?_ofNat hn)

theorem IsWhole.isUnsigned (h : IsWhole t) : IsUnsigned t := by
  have hmk := IsUnsigned.mk h .none .none
  rwa [List.append_nil, List.append_nil] at hmk

theorem IsWhole.isUnsigned_fraction (h : IsWhole t) (hu : AreDigits u) :
    IsUnsigned (t ++ ('.' : CodePoint) :: u) := by
  have hmk := IsUnsigned.mk h (.some hu) .none
  rwa [List.append_nil] at hmk

theorem isNumber_ofInt (i : ℤ) : IsNumber (ofInt i) := by
  unfold ofInt
  split
  · exact .negative isWhole_ofNat.isUnsigned
  · exact .plain isWhole_ofNat.isUnsigned

end Text

namespace Decimal

open Text (AreDigits IsWhole IsUnsigned IsPower IsFraction)

variable {d : Decimal}

theorem Leads.areDigits {digits : List ℕ} (h : d.Leads) (hne : digits ≠ [])
    (hwithin : digits <:+: d.digits) : AreDigits (text digits) where
  ne_nil := by simpa [text] using hne
  digit c hc := h.digit c ((hwithin.map _).subset hc)

theorem areDigits_zeros_append {t : Text} (n : ℕ) (h : AreDigits t) : AreDigits (zeros n ++ t) := by
  refine h.prepend fun c hc => ?_
  rw [List.eq_of_mem_replicate hc]
  decide

/-- Digits at the front of the decimal are a whole number, whatever zeros follow. -/
theorem Leads.isWhole {digits : List ℕ} (h : d.Leads) (hne : digits ≠ [])
    (hfront : digits <+: d.digits) (n : ℕ) : IsWhole (text digits ++ zeros n) := by
  have hdigits := h.areDigits hne hfront.isInfix
  have hzeros : ∀ c ∈ zeros n, c.isAsciiDigit = true := by
    intro c hc
    rw [List.eq_of_mem_replicate hc]
    decide
  refine IsWhole.of_head (hdigits.append hzeros) ?_
  obtain ⟨more, hmore⟩ := hfront
  have hhead : (text d.digits).head? = (text digits).head? := by
    rw [← hmore, text, List.map_append]
    exact List.head?_append_of_ne_nil _ hdigits.ne_nil
  rw [List.head?_append_of_ne_nil _ hdigits.ne_nil, ← hhead]
  exact h.head

theorem isUnsigned_positional (h : d.Leads) : IsUnsigned d.positional := by
  have hall := h.areDigits h.ne_nil List.infix_rfl
  have hlength := List.length_pos_of_ne_nil h.ne_nil
  unfold positional
  dsimp only
  split
  · have hunsigned := Text.isWhole_zero.isUnsigned_fraction
      (areDigits_zeros_append d.point.natAbs hall)
    rw [Text.concat_cons, Text.concat_cons, Text.concat_cons, Text.concat_nil, List.append_nil]
    exact hunsigned
  · split
    · have hwhole := h.isWhole h.ne_nil List.prefix_rfl (d.point.natAbs - d.digits.length)
      have hunsigned := hwhole.isUnsigned_fraction Text.isWhole_zero.toAreDigits
      rw [Text.concat_cons, Text.concat_cons, Text.concat_cons, Text.concat_nil,
        ← List.append_assoc]
      exact hunsigned
    · next hpoint hlong =>
      have hfront : d.digits.take d.point.natAbs ≠ [] := by
        rw [← List.length_pos_iff_ne_nil, List.length_take]
        omega
      have hback : d.digits.drop d.point.natAbs ≠ [] := by
        rw [← List.length_pos_iff_ne_nil, List.length_drop]
        omega
      have hunsigned := (h.isWhole hfront (List.take_prefix _ _) 0).isUnsigned_fraction
        (h.areDigits hback (List.drop_suffix _ _).isInfix)
      rw [zeros, List.replicate_zero, List.append_nil] at hunsigned
      rw [Text.concat_cons, Text.concat_cons, Text.concat_cons, Text.concat_nil, List.append_nil]
      exact hunsigned

theorem isPower_scientific (power : ℤ) {size : Text} (hsize : AreDigits size) :
    IsPower ((if power < 0 then ("e-" : Text) else ("e+" : Text)) ++ size) := by
  split
  · exact .signed (.inl rfl) (.inr rfl) hsize
  · exact .signed (.inl rfl) (.inl rfl) hsize

theorem isUnsigned_scientific (h : d.Leads) : IsUnsigned d.scientific := by
  have hpower (n k : ℕ) := isPower_scientific (d.point - 1)
    (areDigits_zeros_append n (t := Text.ofNat k) Text.areDigits_ofNat)
  obtain ⟨first, others, hdigits⟩ := List.exists_cons_of_ne_nil h.ne_nil
  have hwhole := h.isWhole (List.cons_ne_nil first []) ⟨others, hdigits.symm⟩ 0
  rw [zeros, List.replicate_zero, List.append_nil] at hwhole
  have hempty : Text.ofString "" = [] := rfl
  have hpoint : Text.ofString "." = [('.' : CodePoint)] := rfl
  cases others with
  | nil =>
    have hunsigned := IsUnsigned.mk hwhole .none
      (hpower (2 - (Text.ofNat (d.point - 1).natAbs).length) (d.point - 1).natAbs)
    simpa [scientific, hdigits, text, hempty] using hunsigned
  | cons second others =>
    have hfraction := h.areDigits (List.cons_ne_nil second others)
      (hdigits ▸ (List.suffix_cons first (second :: others)).isInfix)
    have hunsigned := IsUnsigned.mk hwhole (.some hfraction)
      (hpower (2 - (Text.ofNat (d.point - 1).natAbs).length) (d.point - 1).natAbs)
    simpa [scientific, hdigits, text, hpoint] using hunsigned

theorem isUnsigned_written (h : d.Leads) : IsUnsigned d.written := by
  unfold written
  split
  · exact isUnsigned_positional h
  · exact isUnsigned_scientific h

end Decimal

namespace Double

def IsFinite : Double → Prop
  | finite _ _ _ => True
  | _ => False

theorem isUnsigned_magnitudeText (mantissa exponent : ℕ) :
    Text.IsUnsigned (magnitudeText mantissa exponent) := by
  unfold magnitudeText
  split
  · exact Text.isWhole_zero.isUnsigned_fraction Text.isWhole_zero.toAreDigits
  · next hmantissa =>
    exact Decimal.isUnsigned_written (leads_shortest (Nat.pos_of_ne_zero hmantissa) exponent)

theorem isNumber_writeDouble {d : Double} (h : d.IsFinite) :
    Text.IsNumber (Json.writeDouble d) := by
  cases d with
  | nan => exact h.elim
  | infinity negative => exact h.elim
  | finite negative mantissa exponent =>
    have hmagnitude := isUnsigned_magnitudeText mantissa exponent
    have htext : Json.writeDouble (finite negative mantissa exponent) =
        minus negative ++ magnitudeText mantissa exponent := by
      simp [Json.writeDouble, written]
    rw [htext]
    cases negative with
    | false => exact .plain hmagnitude
    | true => exact .negative hmagnitude

end Double

end ZigAdvisor
