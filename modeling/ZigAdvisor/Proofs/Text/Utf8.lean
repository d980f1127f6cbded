import Mathlib.Tactic
import ZigAdvisor.Proofs.Text.Surrogates
import ZigAdvisor.Text.Ascii
import ZigAdvisor.Text.Utf8

/-!
# Decoded texts

The first byte of a code point leaves a range for the second that keeps surrogates out, so a file
that is decoded holds none, and neither does a page that is decoded leniently, whatever its bytes
are. A text in ASCII is decoded from its bytes as it was.
-/

namespace ZigAdvisor

theorem CodePoint.not_isSurrogate_ofNat {n : ℕ} (h : n < 0xD800 ∨ 0xDFFF < n) :
    ¬ (ofNat n).IsSurrogate := by
  unfold ofNat
  split
  · rintro ⟨hlow, hhigh⟩
    simp only at hlow hhigh
    omega
  · decide

namespace Utf8

variable {low high more size value taken : ℕ} {bytes : Bytes} {c : CodePoint} {first : UInt8}

/-- What has been read so far is the upper part of the code point. -/
theorem exists_of_continuation (h : continuation low high more size value bytes = .point c taken) :
    ∃ n, c = .ofNat n ∧ value * 0x40 ^ more ≤ n ∧ n < (value + 1) * 0x40 ^ more := by
  induction more generalizing low high size value bytes with
  | zero =>
    cases h
    exact ⟨value, rfl, by omega, by omega⟩
  | succ more ih =>
    cases bytes with
    | nil => cases h
    | cons b bytes =>
      rw [continuation] at h
      split_ifs at h with hb
      obtain ⟨n, hn, hle, hlt⟩ := ih h
      have hdigit : b.toNat % 0x40 < 0x40 := Nat.mod_lt _ (by decide)
      refine ⟨n, hn, ?_, ?_⟩
      · calc value * 0x40 ^ (more + 1) = value * 0x40 * 0x40 ^ more := by ring
          _ ≤ (value * 0x40 + b.toNat % 0x40) * 0x40 ^ more :=
            Nat.mul_le_mul_right _ (Nat.le_add_right _ _)
          _ ≤ n := hle
      · calc n < (value * 0x40 + b.toNat % 0x40 + 1) * 0x40 ^ more := hlt
          _ ≤ ((value + 1) * 0x40) * 0x40 ^ more := Nat.mul_le_mul_right _ (by omega)
          _ = (value + 1) * 0x40 ^ (more + 1) := by ring

/-- The second byte is in its range. -/
theorem exists_second (h : continuation low high (more + 1) size value bytes = .point c taken) :
    ∃ b : UInt8, low ≤ b.toNat ∧ b.toNat ≤ high ∧ ∃ n, c = .ofNat n ∧
      (value * 0x40 + b.toNat % 0x40) * 0x40 ^ more ≤ n ∧
      n < (value * 0x40 + b.toNat % 0x40 + 1) * 0x40 ^ more := by
  cases bytes with
  | nil => cases h
  | cons b bytes =>
    rw [continuation] at h
    split_ifs at h with hb
    exact ⟨b, hb.1, hb.2, exists_of_continuation h⟩

theorem not_isSurrogate_of_plainFront (h : plainFront first bytes = .point c taken) :
    ¬ c.IsSurrogate := by
  have hfirst : first.toNat < 0x100 := first.toNat_lt
  unfold plainFront announced at h
  split_ifs at h
  · cases h
    exact CodePoint.not_isSurrogate_ofNat (by omega)
  all_goals
    obtain ⟨b, hlow, hhigh, n, rfl, hle, hlt⟩ := exists_second h
    exact CodePoint.not_isSurrogate_ofNat (by omega)

theorem plain_decodeLossyFrom (skip : ℕ) (bytes : Bytes) : (decodeLossyFrom skip bytes).Plain := by
  induction bytes generalizing skip with
  | nil =>
    rw [decodeLossyFrom]
    exact Text.plain_nil
  | cons b bytes ih =>
    cases skip with
    | succ skip => exact ih skip
    | zero =>
      rw [decodeLossyFrom]
      split
      · next h => exact Text.plain_cons.mpr ⟨not_isSurrogate_of_plainFront h, ih _⟩
      · exact Text.plain_cons.mpr ⟨by decide, ih _⟩

/-- A page that is decoded leniently holds no surrogates. -/
theorem plain_decodeLossy (bytes : Bytes) : (decodeLossy bytes).Plain :=
  plain_decodeLossyFrom 0 bytes

/-! ## Files -/

theorem plain_decodeFrom {position skip : ℕ} {t : Text}
    (h : decodeFrom false position skip bytes = .ok t) : t.Plain := by
  induction bytes generalizing position skip t with
  | nil =>
    rw [decodeFrom] at h
    rw [← Except.ok.inj h]
    exact Text.plain_nil
  | cons b bytes ih =>
    cases skip with
    | succ skip => exact ih h
    | zero =>
      rw [decodeFrom] at h
      split at h
      · next c size hfront =>
        cases hrest : decodeFrom false (position + 1) (size - 1) bytes with
        | error e => simp [hrest, Except.map] at h
        | ok rest =>
          rw [hrest] at h
          rw [← Except.ok.inj h]
          exact Text.plain_cons.mpr ⟨not_isSurrogate_of_plainFront hfront, ih hrest⟩
      · cases h

/-- A file that is decoded holds no surrogates. -/
theorem plain_decode {t : Text} (h : decode bytes = .ok t) : t.Plain := plain_decodeFrom h

theorem encodePoint_ascii (h : c.isAscii = true) : encodePoint c = [c.val.toUInt8] := by
  have hlt : c.val < 0x80 := by simpa [CodePoint.isAscii] using h
  simp only [encodePoint, hlt, if_true]

theorem front_ascii (h : c.isAscii = true) (surrogates : Bool) (bytes : Bytes) :
    front surrogates c.val.toUInt8 bytes = .point c 1 := by
  have hlt : c.val < 0x80 := by simpa [CodePoint.isAscii] using h
  have hval : c.val.toUInt8.toNat = c.val := by
    change c.val % 2 ^ 8 = c.val
    omega
  have hannounced : announced c.val = (1, 0, 0) := by simp only [announced, hlt, if_true]
  have hplain : plainFront c.val.toUInt8 bytes = .point (.ofNat c.val) 1 := by
    simp only [plainFront, hval, hannounced]
  have hnone : surrogate? c.val.toUInt8 bytes = none := by
    unfold surrogate?
    split
    · exact if_neg fun hfirst => by omega
    · rfl
  rw [CodePoint.ofNat_val] at hplain
  rw [front, hnone, ite_self]
  exact hplain

theorem decodeFrom_encode {t : Text} (h : ∀ c ∈ t, c.isAscii = true) (surrogates : Bool)
    (position : ℕ) : decodeFrom surrogates position 0 (encode t) = .ok t := by
  induction t generalizing position with
  | nil => rfl
  | cons c t ih =>
    rw [List.forall_mem_cons] at h
    have hbytes : encode (c :: t) = c.val.toUInt8 :: encode t := by
      rw [encode, List.flatMap_cons, encodePoint_ascii h.1]
      rfl
    rw [hbytes, decodeFrom, front_ascii h.1 surrogates]
    simp only [Nat.sub_self, ih h.2]
    rfl

/-- A text in ASCII is read from its bytes as it was. -/
theorem decode_encode {t : Text} (h : ∀ c ∈ t, c.isAscii = true) : decode (encode t) = .ok t :=
  decodeFrom_encode h false 0

end Utf8

end ZigAdvisor
