import ZigAdvisor.Json.Writer
import ZigAdvisor.Proofs.Json.Reading

/-!
# Strings that are read back

Every code point is written so that the reader gives it back, if a high surrogate is not followed by
the escape of a low one. No other code point is written with such an escape, so a string without
pairs is read back as it is.
-/

namespace ZigAdvisor.Json

variable {opening t rest tail : Text} {c : CodePoint} {n : ℕ}

/-! ## Escapes by number -/

theorem hexValue?_hexDigit (hn : n < 16) : (Text.hexDigit n).hexValue? = some n := by
  have h : ∀ k : Fin 16, (Text.hexDigit k).hexValue? = some k.val := by decide
  exact h ⟨n, hn⟩

theorem unit?_hex (hn : n < 0x10000) : unit? (Text.hexDigit ((n >>> 12) % 16))
    (Text.hexDigit ((n >>> 8) % 16)) (Text.hexDigit ((n >>> 4) % 16))
    (Text.hexDigit (n % 16)) = some n := by
  have hlt (k : ℕ) : k % 16 < 16 := Nat.mod_lt k (by decide)
  simp only [unit?, hexValue?_hexDigit (hlt _), Option.bind_eq_bind, Option.bind_some,
    Option.pure_def, Option.some.injEq, Nat.shiftRight_eq_div_pow]
  omega

theorem unitEscape_eq (n : ℕ) : unitEscape n = [.backslash, ('u' : CodePoint),
    Text.hexDigit ((n >>> 12) % 16), Text.hexDigit ((n >>> 8) % 16),
    Text.hexDigit ((n >>> 4) % 16), Text.hexDigit (n % 16)] := rfl

theorem lowSurrogate?_unitEscape (hn : n < 0x10000) (htail : tail ≠ []) :
    lowSurrogate? (unitEscape n ++ tail) =
      (some n).filter fun n => 0xDC00 ≤ n ∧ n ≤ 0xDFFF := by
  obtain ⟨d, tail, rfl⟩ := List.exists_cons_of_ne_nil htail
  simp only [unitEscape_eq, List.cons_append, List.nil_append, lowSurrogate?, unit?_hex hn]
  simp

/-- The rest of an escape is passed over. -/
theorem readChars_skip (skipped : Text) :
    readChars opening skipped.length (skipped ++ t) = readChars opening 0 t := by
  induction skipped with
  | nil => rfl
  | cons c skipped ih =>
    rw [List.length_cons, List.cons_append, readChars]
    exact ih

/-- An escape is read as one code point, and then the text behind it. -/
theorem readChars_escape (skipped : Text) (h : readEscape opening (.backslash :: (skipped ++ t))
    (skipped ++ t) = .ok (c, skipped.length)) :
    readChars opening 0 (.backslash :: (skipped ++ t)) =
      (readChars opening 0 t).map fun (s, rest) => (c :: s, rest) := by
  have hquote : CodePoint.backslash ≠ .quote := by decide
  rw [readChars, if_neg hquote, if_pos rfl, h]
  simp only [readChars_skip]

theorem readUnitEscape_hex {fromLetter : Text} (hn : n < 0x10000) (htail : tail ≠ []) :
    readUnitEscape fromLetter (Text.hex 4 n ++ tail) =
      if 0xD800 ≤ n ∧ n ≤ 0xDBFF then
        match lowSurrogate? tail with
        | some low => .ok (.ofNat (0x10000 + (n - 0xD800) * 0x400 + (low - 0xDC00)), 10)
        | none => .ok (.ofNat n, 4)
      else .ok (.ofNat n, 4) := by
  obtain ⟨d, tail, rfl⟩ := List.exists_cons_of_ne_nil htail
  have hdigits : Text.hex 4 n = [Text.hexDigit ((n >>> 12) % 16), Text.hexDigit ((n >>> 8) % 16),
    Text.hexDigit ((n >>> 4) % 16), Text.hexDigit (n % 16)] := rfl
  rw [hdigits, List.cons_append, List.cons_append, List.cons_append, List.singleton_append,
    readUnitEscape]
  exact unit?_hex hn ▸ rfl

/-- A code point of the basic plane in an escape is read back, if it is not the first half of a
pair. -/
theorem readChars_unitEscape (hc : c.val < 0x10000) (htail : tail ≠ [])
    (hhigh : c.IsHigh → lowSurrogate? tail = none) :
    readChars opening 0 (unitEscape c.val ++ tail) =
      (readChars opening 0 tail).map fun (s, rest) => (c :: s, rest) := by
  have hread : readUnitEscape (('u' : CodePoint) :: (Text.hex 4 c.val ++ tail))
      (Text.hex 4 c.val ++ tail) = .ok (c, 4) := by
    rw [readUnitEscape_hex hc htail]
    split_ifs with hrange
    · rw [hhigh hrange, CodePoint.ofNat_val]
    · rw [CodePoint.ofNat_val]
  refine readChars_escape (('u' : CodePoint) :: Text.hex 4 c.val) ?_
  rw [List.cons_append, readEscape, if_pos rfl, hread]
  rfl

/-- A code point beyond the basic plane is read back from its two escapes. -/
theorem readChars_pair (hc : 0x10000 ≤ c.val) (htail : tail ≠ []) :
    readChars opening 0 (unitEscape (0xD800 + (c.val - 0x10000) / 0x400) ++
        (unitEscape (0xDC00 + (c.val - 0x10000) % 0x400) ++ tail)) =
      (readChars opening 0 tail).map fun (s, rest) => (c :: s, rest) := by
  have hlt := c.isLt
  have hlow : lowSurrogate? (unitEscape (0xDC00 + (c.val - 0x10000) % 0x400) ++ tail) =
      some (0xDC00 + (c.val - 0x10000) % 0x400) := by
    rw [lowSurrogate?_unitEscape (by omega) htail, Option.filter_some, if_pos (by simp; omega)]
  have hread : readUnitEscape (('u' : CodePoint) ::
        (Text.hex 4 (0xD800 + (c.val - 0x10000) / 0x400) ++
          (unitEscape (0xDC00 + (c.val - 0x10000) % 0x400) ++ tail)))
      (Text.hex 4 (0xD800 + (c.val - 0x10000) / 0x400) ++
        (unitEscape (0xDC00 + (c.val - 0x10000) % 0x400) ++ tail)) = .ok (c, 10) := by
    have hpoint : 0x10000 + (0xD800 + (c.val - 0x10000) / 0x400 - 0xD800) * 0x400 +
        (0xDC00 + (c.val - 0x10000) % 0x400 - 0xDC00) = c.val := by omega
    rw [readUnitEscape_hex (by omega) (by simp [unitEscape_eq]), if_pos (by omega), hlow]
    simp only [hpoint, CodePoint.ofNat_val]
  refine Eq.trans (congrArg _ ?_) (readChars_escape (('u' : CodePoint) ::
    (Text.hex 4 (0xD800 + (c.val - 0x10000) / 0x400) ++
      unitEscape (0xDC00 + (c.val - 0x10000) % 0x400))) ?_)
  · rw [List.cons_append, List.append_assoc]
    rfl
  · rw [List.cons_append, List.append_assoc, readEscape, if_pos rfl, hread]
    rfl

/-! ## Strings -/

theorem shortEscape?_eq_some {letter : CodePoint} (h : shortEscape? c = some letter) :
    letter ≠ 'u' ∧ shortEscapeValue? letter = some c := by
  have hall : ∀ e ∈ shortEscapes, e.2 ≠ 'u' ∧ shortEscapeValue? e.2 = some e.1 := by decide
  exact hall _ (mem_shortEscapes h)

/-- Whatever code point is written, it is read back and the text behind it after it. -/
theorem readChars_writePoint (htail : tail ≠ []) (hhigh : c.IsHigh → lowSurrogate? tail = none) :
    readChars opening 0 (writePoint c ++ tail) =
      (readChars opening 0 tail).map fun (s, rest) => (c :: s, rest) := by
  unfold writePoint
  cases hshort : shortEscape? c with
  | some letter =>
    obtain ⟨hletter, hvalue⟩ := shortEscape?_eq_some hshort
    refine readChars_escape [letter] ?_
    rw [List.singleton_append, readEscape, if_neg hletter, hvalue]
    rfl
  | none =>
    dsimp only
    split_ifs with hplain hbasic
    · have hself : ¬ (c = .quote ∨ c = .backslash) := by
        intro h
        rw [shortEscape?, if_pos h] at hshort
        cases hshort
      rw [not_or] at hself
      rw [List.singleton_append, readChars, if_neg hself.1, if_neg hself.2,
        if_neg (Nat.not_lt.mpr hplain.1)]
    · exact readChars_unitEscape hbasic htail hhigh
    · rw [List.append_assoc]
      exact readChars_pair (Nat.not_lt.mp hbasic) htail

/-- Only a low surrogate is written with the escape of one. -/
theorem lowSurrogate?_writePoint (htail : tail ≠ []) (hc : ¬ c.IsLow) :
    lowSurrogate? (writePoint c ++ tail) = none := by
  unfold writePoint
  cases hshort : shortEscape? c with
  | some letter =>
    have hletter := (shortEscape?_eq_some hshort).1
    simp only [List.cons_append, List.nil_append]
    unfold lowSurrogate?
    split
    · next heq =>
      obtain ⟨-, heq⟩ := List.cons.inj heq
      obtain ⟨rfl, -⟩ := List.cons.inj heq
      rw [if_neg (by simp [hletter])]
    · rfl
  | none =>
    dsimp only
    split_ifs with hplain hbasic
    · have hself : c ≠ .backslash := by
        rintro rfl
        cases hshort
      rw [List.singleton_append]
      unfold lowSurrogate?
      split
      · next heq =>
        obtain ⟨rfl, -⟩ := List.cons.inj heq
        rw [if_neg (by simp [hself])]
      · rfl
    · rw [lowSurrogate?_unitEscape hbasic htail, Option.filter_some,
        if_neg (by simpa [CodePoint.IsLow] using hc)]
    · have hlt := c.isLt
      rw [List.append_assoc, lowSurrogate?_unitEscape (by omega) (by simp [unitEscape_eq]),
        Option.filter_some, if_neg (by simp; omega)]

/-- A string without pairs is read back up to its closing quote. -/
theorem readChars_writeString (ht : t.Unpaired) :
    readChars opening 0 (t.flatMap writePoint ++ .quote :: rest) = .ok (t, rest) := by
  induction t with
  | nil => rw [List.flatMap_nil, List.nil_append, readChars, if_pos rfl]
  | cons c t ih =>
    obtain ⟨hhead, hunpaired⟩ := Text.unpaired_cons.mp ht
    rw [List.flatMap_cons, List.append_assoc, readChars_writePoint (by simp), ih hunpaired]
    · rfl
    · intro hc
      cases t with
      | nil =>
        have hquote : CodePoint.quote ≠ .backslash := by decide
        rw [List.flatMap_nil, List.nil_append]
        unfold lowSurrogate?
        split
        · next heq =>
          obtain ⟨rfl, -⟩ := List.cons.inj heq
          rw [if_neg (by simp [hquote])]
        · rfl
      | cons d t =>
        rw [List.flatMap_cons, List.append_assoc]
        exact lowSurrogate?_writePoint (by simp) fun hd => hhead d rfl ⟨hc, hd⟩

theorem readString_writeString (ht : t.Unpaired) :
    readString opening (t.flatMap writePoint ++ .quote :: rest) = .ok (t, rest) :=
  readChars_writeString ht

end ZigAdvisor.Json
