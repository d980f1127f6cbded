import Mathlib.Data.List.TakeWhile
import ZigAdvisor.Proofs.Json.Members
import ZigAdvisor.Proofs.Json.Readable
import ZigAdvisor.Proofs.Number.Digits
import ZigAdvisor.Proofs.Service.Outcomes

/-!
# What is read

Every reader leaves a suffix of its text. What it reads of a text without surrogates is within the
limits of the reader, and where it stops, the text is either no JSON or holds what is beyond these
limits: a row of too many digits, or too many brackets that open.
-/

namespace ZigAdvisor

namespace Json

variable {α β : Type} {depth : ℕ} {t u rest : Text} {fault : Fault}

def Fault.isLimit : Fault → Bool
  | malformed _ _ => false
  | longInteger _ | deepArray | deepObject => true

def openings (t : Text) : ℕ := t.countP fun c : CodePoint => c = '[' ∨ c = '\x7b'

/-- Whether a text holds what a fault at a limit is about. -/
def Exceeds (depth : ℕ) (t : Text) : Fault → Prop
  | .malformed _ _ => True
  | .longInteger n => Text.maxDigits < n ∧
    ∃ digits, digits <:+: t ∧ digits.length = n ∧ ∀ c ∈ digits, c.isAsciiDigit = true
  | .deepArray | .deepObject => depth < openings t

theorem exceeds_of_not_isLimit (h : fault.isLimit = false) : Exceeds depth t fault := by
  cases fault with
  | malformed problem rest => trivial
  | _ => cases h

theorem Exceeds.of_suffix (hu : u <:+ t) (h : Exceeds depth u fault) : Exceeds depth t fault := by
  cases fault with
  | malformed problem rest => trivial
  | longInteger n =>
    obtain ⟨hn, digits, hwithin, hdigits⟩ := h
    exact ⟨hn, digits, hwithin.trans hu.isInfix, hdigits⟩
  | deepArray => exact Nat.lt_of_lt_of_le h hu.sublist.countP_le
  | deepObject => exact Nat.lt_of_lt_of_le h hu.sublist.countP_le

/-- One level further out there is one more bracket. -/
theorem Exceeds.enclose {c : CodePoint} (hc : c = '[' ∨ c = '\x7b')
    (h : Exceeds depth t fault) : Exceeds (depth + 1) (c :: t) fault := by
  have hopenings : openings (c :: t) = openings t + 1 := List.countP_cons_of_pos (by simpa using hc)
  cases fault with
  | malformed problem rest => trivial
  | longInteger n =>
    obtain ⟨hn, digits, hwithin, hdigits⟩ := h
    exact ⟨hn, digits, hwithin.trans (List.suffix_cons c t).isInfix, hdigits⟩
  | deepArray =>
    have hlt : depth < openings t := h
    change depth + 1 < openings (c :: t)
    omega
  | deepObject =>
    have hlt : depth < openings t := h
    change depth + 1 < openings (c :: t)
    omega

/-- What comes of reading a text: a suffix is left, what is read has a property if there are no
surrogates in the text, and a fault has its cause in the text. -/
def Yields (Q : α → Prop) (depth : ℕ) (t : Text) : Reading α → Prop
  | .ok (a, rest) => rest <:+ t ∧ (t.Plain → Q a)
  | .error fault => Exceeds depth t fault

variable {Q : α → Prop} {R : β → Prop} {x : Reading α}

theorem Yields.of_suffix (hu : u <:+ t) (h : Yields Q depth u x) : Yields Q depth t x := by
  cases x with
  | ok read => exact ⟨h.1.trans hu, fun ht => h.2 (ht.of_infix hu.isInfix)⟩
  | error fault => exact Exceeds.of_suffix hu h

theorem Yields.enclose {c : CodePoint} (hc : c = '[' ∨ c = '\x7b') (h : Yields Q depth t x) :
    Yields Q (depth + 1) (c :: t) x := by
  cases x with
  | ok read =>
    exact ⟨h.1.trans (List.suffix_cons c t), fun ht => h.2 (Text.plain_cons.mp ht).2⟩
  | error fault => exact Exceeds.enclose hc h

theorem Yields.map {f : α → β} (h : Yields Q depth t x) (hf : t.Plain → ∀ a, Q a → R (f a)) :
    Yields R depth t (x.map fun (a, rest) => (f a, rest)) := by
  cases x with
  | ok read => exact ⟨h.1, fun ht => hf ht _ (h.2 ht)⟩
  | error fault => exact h

theorem skipSpace_suffix (t : Text) : skipSpace t <:+ t := List.dropWhile_suffix _

/-! ## Strings -/

theorem isLimit_readUnitEscape (h : readUnitEscape t u = .error fault) : fault.isLimit = false := by
  unfold readUnitEscape at h
  split at h
  · split at h
    · rw [← Except.error.inj h]
      rfl
    · split at h
      · split at h <;> cases h
      · cases h
  · rw [← Except.error.inj h]
    rfl

theorem isLimit_readEscape {opening : Text} (h : readEscape opening t u = .error fault) :
    fault.isLimit = false := by
  unfold readEscape at h
  split at h
  · rw [← Except.error.inj h]
    rfl
  · split at h
    · exact isLimit_readUnitEscape (Except.map_eq_error.mp h)
    · split at h
      · cases h
      · rw [← Except.error.inj h]
        rfl

theorem isLimit_readChars {opening : Text} {skip : ℕ}
    (h : readChars opening skip t = .error fault) : fault.isLimit = false := by
  induction t generalizing skip with
  | nil =>
    simp only [readChars, Except.error.injEq] at h
    rw [← h]
    rfl
  | cons c t ih =>
    cases skip with
    | succ skip => exact ih h
    | zero =>
      rw [readChars] at h
      split at h
      · cases h
      · split at h
        · cases hescape : readEscape opening (c :: t) t with
          | error fault' =>
            simp only [hescape, Except.error.injEq] at h
            rw [← h]
            exact isLimit_readEscape hescape
          | ok escape =>
            simp only [hescape] at h
            exact ih (Except.map_eq_error.mp h)
        · split at h
          · rw [← Except.error.inj h]
            rfl
          · exact ih (Except.map_eq_error.mp h)

/-- A string goes on with what an escape is read as, or with the code point that stands there,
unless a quote closes it. -/
theorem readChars_cons_eq_ok {opening s : Text} {c : CodePoint}
    (h : readChars opening 0 (c :: t) = .ok (s, rest)) :
    (s = [] ∧ rest = t) ∨
    (∃ point size more, c = .backslash ∧ readEscape opening (c :: t) t = .ok (point, size) ∧
      readChars opening size t = .ok (more, rest) ∧ s = point :: more) ∨
    ∃ more, readChars opening 0 t = .ok (more, rest) ∧ s = c :: more := by
  rw [readChars] at h
  split_ifs at h with hquote hbackslash hcontrol
  · obtain ⟨rfl, rfl⟩ := Prod.mk.inj (Except.ok.inj h)
    exact .inl ⟨rfl, rfl⟩
  · cases hescape : readEscape opening (c :: t) t with
    | error fault' => simp [hescape] at h
    | ok escape =>
      obtain ⟨point, size⟩ := escape
      simp only [hescape] at h
      obtain ⟨⟨more, behind⟩, hread, hpair⟩ := Except.map_eq_ok.mp h
      obtain ⟨rfl, rfl⟩ := Prod.mk.inj hpair
      exact .inr (.inl ⟨point, size, more, hbackslash, rfl, hread, rfl⟩)
  · obtain ⟨⟨more, behind⟩, hread, hpair⟩ := Except.map_eq_ok.mp h
    obtain ⟨rfl, rfl⟩ := Prod.mk.inj hpair
    exact .inr (.inr ⟨more, hread, rfl⟩)

theorem readChars_suffix {opening s : Text} {skip : ℕ}
    (h : readChars opening skip t = .ok (s, rest)) : rest <:+ t := by
  induction t generalizing skip s with
  | nil => cases skip <;> simp [readChars] at h
  | cons c t ih =>
    refine List.IsSuffix.trans ?_ (List.suffix_cons c t)
    cases skip with
    | succ skip => exact ih h
    | zero =>
      obtain ⟨-, rfl⟩ | ⟨_, _, _, -, -, hread, -⟩ | ⟨_, hread, -⟩ := readChars_cons_eq_ok h
      · exact List.suffix_rfl
      · exact ih hread
      · exact ih hread

theorem hexValue?_lt {c : CodePoint} {n : ℕ} (h : c.hexValue? = some n) : n < 16 := by
  unfold CodePoint.hexValue? at h
  split_ifs at h with hdigit hupper hlower
  · have hrange := CodePoint.isAsciiDigit_iff.mp hdigit
    rw [← Option.some.inj h]
    omega
  · rw [← Option.some.inj h]
    omega
  · rw [← Option.some.inj h]
    omega

theorem unit?_lt {a b c d : CodePoint} {n : ℕ} (h : unit? a b c d = some n) : n < 0x10000 := by
  unfold unit? at h
  simp only [Option.bind_eq_bind, Option.bind_eq_some_iff, Option.pure_def,
    Option.some.injEq] at h
  obtain ⟨p, hp, q, hq, r, hr, s, hs, rfl⟩ := h
  have hp' := hexValue?_lt hp
  have hq' := hexValue?_lt hq
  have hr' := hexValue?_lt hr
  have hs' := hexValue?_lt hs
  omega

theorem lowSurrogate?_range {n : ℕ} (h : lowSurrogate? t = some n) : 0xDC00 ≤ n ∧ n ≤ 0xDFFF := by
  unfold lowSurrogate? at h
  split at h
  · split at h
    · simpa using (Option.filter_eq_some_iff.mp h).2
    · cases h
  · cases h

/-- An escape yields a high surrogate only if no low one follows it as an escape, and a low one only
if it can be the second half of a pair. -/
theorem readUnitEscape_surrogate {point : CodePoint} {size : ℕ}
    (h : readUnitEscape t u = .ok (point, size)) :
    (point.IsHigh → lowSurrogate? (u.drop size) = none) ∧
      (point.IsLow → lowSurrogate? (.backslash :: ('u' : CodePoint) :: u) ≠ none) := by
  unfold readUnitEscape at h
  split at h
  · next a b c d e rest =>
    cases hunit : unit? a b c d with
    | none => simp [hunit] at h
    | some n =>
      have hn := unit?_lt hunit
      simp only [hunit] at h
      split at h
      · next hhigh =>
        split at h
        · next low hlow =>
          have hrange := lowSurrogate?_range hlow
          obtain ⟨rfl, rfl⟩ := Prod.mk.inj (Except.ok.inj h)
          unfold CodePoint.IsHigh CodePoint.IsLow
          rw [CodePoint.val_ofNat (by omega)]
          exact ⟨fun h => by omega, fun h => by omega⟩
        · next hlow =>
          obtain ⟨rfl, rfl⟩ := Prod.mk.inj (Except.ok.inj h)
          refine ⟨fun _ => hlow, fun h => ?_⟩
          unfold CodePoint.IsLow at h
          rw [CodePoint.val_ofNat (by omega)] at h
          omega
      · next hhigh =>
        obtain ⟨rfl, rfl⟩ := Prod.mk.inj (Except.ok.inj h)
        unfold CodePoint.IsHigh CodePoint.IsLow
        rw [CodePoint.val_ofNat (by omega)]
        refine ⟨fun h => absurd h hhigh, fun hlow => ?_⟩
        simp [lowSurrogate?, hunit, Option.filter, hlow]
  · cases h

theorem not_isSurrogate_of_shortEscapeValue? {letter point : CodePoint}
    (h : shortEscapeValue? letter = some point) : ¬ point.IsSurrogate := by
  unfold shortEscapeValue? at h
  split_ifs at h with hself
  · rw [← Option.some.inj h]
    rcases hself with rfl | rfl | rfl <;> decide
  all_goals
    rw [← Option.some.inj h]
    decide

theorem readEscape_surrogate {opening : Text} {point : CodePoint} {size : ℕ}
    (h : readEscape opening t u = .ok (point, size)) :
    (point.IsHigh → lowSurrogate? (u.drop size) = none) ∧
      (point.IsLow → lowSurrogate? (.backslash :: u) ≠ none) := by
  unfold readEscape at h
  split at h
  · cases h
  · next letter rest =>
    split at h
    · next hletter =>
      obtain ⟨⟨point', size'⟩, hread, hpair⟩ := Except.map_eq_ok.mp h
      obtain ⟨rfl, rfl⟩ := Prod.mk.inj hpair
      rw [hletter]
      exact readUnitEscape_surrogate hread
    · split at h
      · next hshort =>
        obtain ⟨rfl, rfl⟩ := Prod.mk.inj (Except.ok.inj h)
        have hpoint := not_isSurrogate_of_shortEscapeValue? hshort
        exact ⟨fun h => absurd h.isSurrogate hpoint, fun h => absurd h.isSurrogate hpoint⟩
      · cases h

/-- A string that is read of a text without surrogates holds no pair, and begins with a low
surrogate only if the text begins with its escape. -/
theorem unpaired_readChars {opening s : Text} {skip : ℕ} (ht : t.Plain)
    (h : readChars opening skip t = .ok (s, rest)) :
    s.Unpaired ∧ ∀ c ∈ s.head?, c.IsLow → lowSurrogate? (t.drop skip) ≠ none := by
  induction t generalizing skip s with
  | nil => cases skip <;> simp [readChars] at h
  | cons c t ih =>
    rw [Text.plain_cons] at ht
    cases skip with
    | succ skip => exact ih ht.2 h
    | zero =>
      obtain ⟨rfl, -⟩ | ⟨point, size, more, hbackslash, hescape, hread, rfl⟩ | ⟨more, hread, rfl⟩ :=
        readChars_cons_eq_ok h
      · exact ⟨Text.unpaired_nil, by simp⟩
      · obtain ⟨hunpaired, hhead⟩ := ih ht.2 hread
        obtain ⟨hhigh, hlow⟩ := readEscape_surrogate hescape
        refine ⟨Text.unpaired_cons.mpr ⟨?_, hunpaired⟩, ?_⟩
        · -- A high surrogate would have taken the escape of a low one behind it as its own half.
          rintro d hd ⟨hpoint, hd'⟩
          exact hhead d hd hd' (hhigh hpoint)
        · intro d hd hd'
          obtain rfl : point = d := Option.some.inj hd
          rw [List.drop_zero, hbackslash]
          exact hlow hd'
      · refine ⟨Text.unpaired_cons.mpr ⟨?_, (ih ht.2 hread).1⟩, ?_⟩
        · exact fun d _ h => ht.1 h.1.isSurrogate
        · intro d hd hd'
          obtain rfl : c = d := Option.some.inj hd
          exact absurd hd'.isSurrogate ht.1

/-! ## Numbers -/

theorem splitDigits_eq :
    Text.splitDigits t = (t.takeWhile CodePoint.isAsciiDigit, t.dropWhile CodePoint.isAsciiDigit) :=
  List.span_eq_takeWhile_dropWhile _ _

theorem splitWhole_append (t : Text) : (splitWhole t).1 ++ (splitWhole t).2 = t := by
  cases t with
  | nil => rfl
  | cons c t =>
    rw [splitWhole]
    split
    · rfl
    · rw [splitDigits_eq]
      exact List.takeWhile_append_dropWhile

theorem isAsciiDigit_of_mem_splitWhole {c : CodePoint} (hc : c ∈ (splitWhole t).1) :
    c.isAsciiDigit = true := by
  cases t with
  | nil => cases hc
  | cons d t =>
    rw [splitWhole] at hc
    split at hc
    · next hzero =>
      rw [List.mem_singleton.mp hc, hzero]
      decide
    · rw [splitDigits_eq] at hc
      exact List.mem_takeWhile_imp hc

theorem splitFraction_suffix (t : Text) : (splitFraction t).2 <:+ t := by
  cases t with
  | nil => exact List.suffix_rfl
  | cons c t =>
    rw [splitFraction]
    split
    · split
      · exact List.suffix_rfl
      · next digits after _ hsplit =>
        have hafter : after = t.dropWhile CodePoint.isAsciiDigit := by
          rw [splitDigits_eq] at hsplit
          exact (Prod.mk.inj hsplit).2.symm
        rw [hafter]
        exact (List.dropWhile_suffix _).trans (List.suffix_cons _ _)
    · exact List.suffix_rfl

theorem splitSign_suffix (t : Text) : (Text.splitSign t).2 <:+ t := by
  cases t with
  | nil => exact List.suffix_rfl
  | cons c t =>
    rw [Text.splitSign]
    split_ifs
    · exact List.suffix_cons _ _
    · exact List.suffix_cons _ _
    · exact List.suffix_rfl

theorem splitPower_suffix (t : Text) : (splitPower t).2 <:+ t := by
  cases t with
  | nil => exact List.suffix_rfl
  | cons c t =>
    rw [splitPower]
    split
    · dsimp only
      split
      · exact List.suffix_rfl
      · next digits after _ hsplit =>
        have hafter : after = (Text.splitSign t).2.dropWhile CodePoint.isAsciiDigit := by
          rw [splitDigits_eq] at hsplit
          exact (Prod.mk.inj hsplit).2.symm
        rw [hafter]
        exact ((List.dropWhile_suffix _).trans (splitSign_suffix t)).trans (List.suffix_cons _ _)
    · exact List.suffix_rfl

theorem yields_readUnsigned (negative : Bool) (start t : Text) :
    Yields (Readable AnyDouble depth) depth t (readUnsigned negative start t) := by
  have hwhole : (splitWhole t).2 <:+ t := ⟨_, splitWhole_append t⟩
  have hfraction := (splitFraction_suffix (splitWhole t).2).trans hwhole
  have hpower := (splitPower_suffix (splitFraction (splitWhole t).2).2).trans hfraction
  have hdigits : ∀ c ∈ (splitWhole t).1, c.isAsciiDigit = true :=
    fun c hc => isAsciiDigit_of_mem_splitWhole hc
  unfold readUnsigned
  dsimp only
  split_ifs with hempty hint hlong hnegative
  · trivial
  · exact ⟨hlong, (splitWhole t).1, List.IsPrefix.isInfix ⟨_, splitWhole_append t⟩, rfl, hdigits⟩
  all_goals refine ⟨hpower, fun _ => ?_⟩
  · rw [List.isEmpty_iff] at hempty
    have hlength := Text.length_ofNat_digitsValue_le hdigits hempty
    apply Readable.int
    rw [Int.natAbs_neg, Int.natAbs_natCast]
    omega
  · rw [List.isEmpty_iff] at hempty
    have hlength := Text.length_ofNat_digitsValue_le hdigits hempty
    apply Readable.int
    rw [Int.natAbs_natCast]
    omega
  · exact .float trivial

theorem yields_readNumber (t : Text) :
    Yields (Readable AnyDouble depth) depth t (readNumber t) := by
  unfold readNumber
  split
  · trivial
  · split
    · exact (yields_readUnsigned _ _ _).of_suffix (List.suffix_cons _ _)
    · exact yields_readUnsigned _ _ _

/-! ## Values -/

theorem yields_readString (opening t : Text) :
    Yields Text.Unpaired depth t (readString opening t) := by
  unfold readString
  cases h : readChars opening 0 t with
  | ok read => exact ⟨readChars_suffix h, fun ht => (unpaired_readChars ht h).1⟩
  | error fault => exact exceeds_of_not_isLimit (isLimit_readChars h)

theorem readable_of_mem_words {w : Text × Json} (h : w ∈ words) : Readable AnyDouble depth w.2 := by
  simp only [words, List.mem_cons, List.not_mem_nil, or_false] at h
  rcases h with rfl | rfl | rfl | rfl | rfl | rfl
  · exact .null
  · exact .bool true
  · exact .bool false
  · exact .float trivial
  · exact .float trivial
  · exact .float trivial

theorem yields_readScalar (t : Text) :
    Yields (Readable AnyDouble depth) depth t (readScalar t) := by
  unfold readScalar
  split
  · trivial
  · next c rest =>
    split
    · have hstring : Yields Text.Unpaired depth rest (readString (c :: rest) rest) :=
        yields_readString _ _
      exact (hstring.map fun _ s hs => .str hs).of_suffix (List.suffix_cons c rest)
    · split
      · next hfind =>
        have hword := List.mem_of_find?_eq_some hfind
        exact ⟨List.drop_suffix _ _, fun _ => readable_of_mem_words hword⟩
      · exact yields_readNumber _

/-- The rest of a text behind blanks and one code point. -/
theorem suffix_of_skipSpace {c : CodePoint} (h : skipSpace t = c :: rest) : rest <:+ t :=
  (List.suffix_cons c rest).trans (h ▸ skipSpace_suffix t)

variable {readItem : Text → Reading α} {close : CodePoint}

theorem yields_readItems (h : ∀ t, Yields Q depth t (readItem t)) (most : ℕ) (t : Text) :
    Yields (fun items => ∀ a ∈ items, Q a) depth t (readItems readItem close most t) := by
  induction most generalizing t with
  | zero => trivial
  | succ most ih =>
    rw [readItems]
    have hitem := h t
    cases hread : readItem t with
    | error fault => rwa [hread] at hitem
    | ok read =>
      obtain ⟨item, behind⟩ := read
      rw [hread] at hitem
      cases hspace : skipSpace behind with
      | nil =>
        simp only [hspace]
        trivial
      | cons c further =>
        have hfurther := (suffix_of_skipSpace hspace).trans hitem.1
        simp only [hspace]
        split_ifs
        · exact ⟨hfurther, fun ht => by simpa using hitem.2 ht⟩
        · have hsuffix := (skipSpace_suffix further).trans hfurther
          refine ((ih (skipSpace further)).of_suffix hsuffix).map ?_
          exact fun ht items hitems => List.forall_mem_cons.mpr ⟨hitem.2 ht, hitems⟩
        · trivial

theorem yields_readEnclosed (h : ∀ t, Yields Q depth t (readItem t)) (t : Text) :
    Yields (fun items => ∀ a ∈ items, Q a) depth t (readEnclosed readItem close t) := by
  unfold readEnclosed
  cases hspace : skipSpace t with
  | nil => exact (yields_readItems h 1 []).of_suffix (List.nil_suffix)
  | cons c rest =>
    dsimp only
    split_ifs
    · exact ⟨suffix_of_skipSpace hspace, by simp⟩
    · exact (yields_readItems h _ _).of_suffix (hspace ▸ skipSpace_suffix t)

theorem yields_readMember {readValue : Text → Reading Json} {Q : Json → Prop}
    (h : ∀ t, Yields Q depth t (readValue t)) (t : Text) :
    Yields (fun m : Text × Json => m.1.Unpaired ∧ Q m.2) depth t (readMember readValue t) := by
  unfold readMember
  split
  · trivial
  · next c rest =>
    split
    · have hstring : Yields Text.Unpaired depth rest (readString (c :: rest) rest) :=
        yields_readString _ _
      cases hread : readString (c :: rest) rest with
      | error fault =>
        rw [hread] at hstring
        exact Exceeds.of_suffix (List.suffix_cons c rest) hstring
      | ok read =>
        obtain ⟨key, behind⟩ := read
        rw [hread] at hstring
        have hkey := hstring.of_suffix (List.suffix_cons c rest)
        cases hspace : skipSpace behind with
        | nil =>
          simp only [hspace]
          trivial
        | cons d further =>
          have hfurther := (suffix_of_skipSpace hspace).trans hkey.1
          simp only [hspace]
          split_ifs
          · have hsuffix := (skipSpace_suffix further).trans hfurther
            have hvalue := (h (skipSpace further)).of_suffix hsuffix
            exact hvalue.map fun ht value hQ => ⟨hkey.2 ht, hQ⟩
          · trivial
    · trivial

theorem readValue_of_head {c : CodePoint} (harray : c ≠ '[') (hobject : c ≠ '\x7b') (depth : ℕ)
    (t : Text) : readValue depth (c :: t) = readScalar (c :: t) := by
  cases depth <;> rw [readValue, if_neg harray, if_neg hobject]

/-- Values are read within the limits, or what exceeds them is in the text. -/
theorem yields_readValue (depth : ℕ) (t : Text) :
    Yields (Readable AnyDouble depth) depth t (readValue depth t) := by
  induction depth generalizing t with
  | zero =>
    cases t with
    | nil => exact yields_readScalar []
    | cons c rest =>
      -- No level is left, so the bracket that opens here is the one too many.
      rw [readValue]
      split_ifs with harray hobject
      · exact List.countP_pos_iff.mpr ⟨c, List.mem_cons_self, by simp [harray]⟩
      · exact List.countP_pos_iff.mpr ⟨c, List.mem_cons_self, by simp [hobject]⟩
      · exact yields_readScalar _
  | succ depth ih =>
    cases t with
    | nil => exact yields_readScalar []
    | cons c rest =>
      rw [readValue]
      split_ifs with harray hobject
      · have hitems : Yields (fun items => ∀ a ∈ items, Readable AnyDouble depth a) depth rest
            (readEnclosed (readValue depth) ']' rest) := yields_readEnclosed ih rest
        exact (hitems.map fun _ items h => Readable.arr h).enclose (.inl harray)
      · have hmembers : Yields (fun ms => ∀ m ∈ ms, m.1.Unpaired ∧ Readable AnyDouble depth m.2)
            depth rest (readEnclosed (readMember (readValue depth)) '\x7d' rest) :=
          yields_readEnclosed (yields_readMember ih) rest
        refine Yields.enclose (.inr hobject) (hmembers.map (f := fun ms => obj (collect ms)) ?_)
        intro _ members h
        have hcollected := forall_mem_collect h
        exact .obj (nodup_collect members) (fun m hm => (hcollected m hm).1)
          fun m hm => (hcollected m hm).2
      · exact yields_readScalar _

/-- Brackets that open at one place are as many levels. -/
theorem readValue_brackets (depth : ℕ) (rest : Text) :
    readValue depth (List.replicate (depth + 1) ('[' : CodePoint) ++ rest) =
      .error .deepArray := by
  induction depth with
  | zero => rfl
  | succ depth ih =>
    have hclose : ('[' : CodePoint) ≠ ']' := by decide
    rw [List.replicate_succ, List.cons_append, readValue, if_pos rfl]
    rw [List.replicate_succ, List.cons_append] at ih ⊢
    have hskip (t : Text) : skipSpace (('[' : CodePoint) :: t) = ('[' : CodePoint) :: t := rfl
    rw [readEnclosed, hskip]
    simp only [if_neg hclose, List.length_cons, readItems, ih]
    rfl

theorem yields_parse (t : Text) (depth : ℕ) :
    (∀ j, parse t depth = .ok j → t.Plain → Readable AnyDouble depth j) ∧
      ∀ fault, parse t depth = .error fault → Exceeds depth t fault := by
  have hvalue := (yields_readValue depth (skipSpace t)).of_suffix (skipSpace_suffix t)
  unfold parse
  cases hread : readValue depth (skipSpace t) with
  | error fault =>
    rw [hread] at hvalue
    simp only [reduceCtorEq, false_implies, implies_true, true_and, Except.error.injEq]
    rintro _ rfl
    exact hvalue
  | ok read =>
    obtain ⟨value, rest⟩ := read
    rw [hread] at hvalue
    cases hspace : skipSpace rest with
    | nil =>
      simp only [hspace, Except.ok.injEq, reduceCtorEq, false_implies, implies_true, and_true]
      rintro _ rfl
      exact hvalue.2
    | cons c extra =>
      simp only [hspace, reduceCtorEq, false_implies, implies_true, true_and, Except.error.injEq]
      rintro _ rfl
      trivial

theorem readable_of_parseText {j : Json} (h : parseText t depth = .ok j) (ht : t.Plain) :
    Readable AnyDouble depth j := by
  unfold parseText at h
  split at h
  · cases h
  · exact (yields_parse t depth).1 j h ht

theorem exceeds_of_parseText (h : parseText t depth = .error fault) : Exceeds depth t fault := by
  unfold parseText at h
  split at h
  · rw [← Except.error.inj h]
    trivial
  · exact (yields_parse t depth).2 fault h

end Json

end ZigAdvisor
