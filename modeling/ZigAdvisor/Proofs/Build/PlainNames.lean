import ZigAdvisor.Text.Ascii
import ZigAdvisor.Proofs.Text.Surrogates
import ZigAdvisor.Proofs.Build.BoundNames
import ZigAdvisor.Proofs.Build.ManifestParts

/-!
# Variables and keys

A given name becomes a variable of the build script or a key of the manifest. The variable has the
letters and digits of all of Unicode (`IsStem`), so it is a plain name exactly if the given name has
none beyond ASCII (`identifier_makes_stem`). The key is written without marks exactly if the name is
plain, a line feed at its end apart (`field_eq_iff`).
-/

namespace ZigAdvisor

namespace CodePoint

variable {c : CodePoint}

theorem isAscii_of_isNameChar (h : c.isNameChar = true) : c.isAscii = true := by
  simp only [isNameChar, isAsciiLetter, isAsciiDigit, Bool.or_eq_true, Bool.and_eq_true,
    decide_eq_true_eq, beq_iff_eq] at h
  rw [isAscii, decide_eq_true_eq]
  rcases h with ((⟨-, hlast⟩ | ⟨-, hlast⟩) | ⟨-, hlast⟩) | rfl
  · omega
  · omega
  · omega
  · decide

/-- In ASCII, the word characters are those of plain names. -/
theorem isWord_eq_isNameChar (h : c.isAscii = true) : c.isWord = c.isNameChar := by
  have hall : ∀ n < 0x80, (ofNat n).isWord = (ofNat n).isNameChar := by decide
  have hc := hall c.val (of_decide_eq_true h)
  rwa [ofNat_val] at hc

/-- In ASCII, there are ten digits. -/
theorem isDigit_eq_isAsciiDigit (h : c.isAscii = true) : c.isDigit = c.isAsciiDigit := by
  have hall : ∀ n < 0x80, (ofNat n).isDigit = (ofNat n).isAsciiDigit := by decide
  have hc := hall c.val (of_decide_eq_true h)
  rwa [ofNat_val] at hc

end CodePoint

namespace Zig

open Text

variable {name w : Text}

theorem isPlainName_iff : isPlainName w = true ↔ IsPlain w := by
  refine ⟨isPlain_of_isPlainName, ?_⟩
  rintro ⟨hne, hchars, hhead⟩
  obtain ⟨c, w, rfl⟩ := List.exists_cons_of_ne_nil hne
  rw [List.forall_mem_cons] at hchars
  have hdigit : c.isAsciiDigit = false := hhead
  have hfirst : (c.isAsciiLetter || c == ('_' : CodePoint)) = true := by
    simpa [CodePoint.isNameChar, hdigit] using hchars.1
  exact Bool.and_eq_true_iff.mpr ⟨hfirst, List.all_eq_true.mpr hchars.2⟩

instance (w : Text) : Decidable (IsPlain w) := decidable_of_iff _ isPlainName_iff

/-! ## Variables -/

/-- Letters, numbers and low lines of any script, and no digit in front. -/
structure IsStem (w : Text) : Prop where
  ne_nil : w ≠ []
  isWord : ∀ c ∈ w, c.isWord = true
  head : w.head?.any CodePoint.isDigit = false

theorem isPlain_iff_isStem (h : w.isAscii = true) : IsPlain w ↔ IsStem w := by
  rw [isAscii, List.all_eq_true] at h
  have hchars : (∀ c ∈ w, c.isNameChar = true) ↔ ∀ c ∈ w, c.isWord = true :=
    forall₂_congr fun c hc => by rw [CodePoint.isWord_eq_isNameChar (h c hc)]
  have hhead : w.head?.any CodePoint.isAsciiDigit = w.head?.any CodePoint.isDigit := by
    cases w with
    | nil => rfl
    | cons c w => exact (CodePoint.isDigit_eq_isAsciiDigit (h c List.mem_cons_self)).symm
  constructor
  · intro hplain
    exact ⟨hplain.ne_nil, hchars.mp hplain.isNameChar, hhead ▸ hplain.head⟩
  · intro hstem
    exact ⟨hstem.ne_nil, hchars.mpr hstem.isWord, hhead ▸ hstem.head⟩

/-- Plain names are the stems in ASCII. -/
theorem isPlain_iff : IsPlain w ↔ IsStem w ∧ w.isAscii = true := by
  constructor
  · intro h
    have hascii : w.isAscii = true :=
      List.all_eq_true.mpr fun c hc => CodePoint.isAscii_of_isNameChar (h.isNameChar c hc)
    exact ⟨(isPlain_iff_isStem hascii).mp h, hascii⟩
  · rintro ⟨hstem, hascii⟩
    exact (isPlain_iff_isStem hascii).mpr hstem

theorem isStem_identifier (name : Text) : IsStem (identifier name) := by
  have hlow : CodePoint.isWord '_' = true ∧ CodePoint.isDigit '_' = false := by decide
  have hwords : ∀ c ∈ name.map fun c => if c.isWord then c else ('_' : CodePoint),
      c.isWord = true := by
    rw [List.forall_mem_map]
    intro c _
    split
    · assumption
    · exact hlow.1
  unfold identifier
  split
  · exact ⟨by decide, by decide, by decide⟩
  · next c rest hname =>
    rw [hname] at hwords
    split
    · exact ⟨List.cons_ne_nil _ _, List.forall_mem_cons.mpr ⟨hlow.1, hwords⟩, hlow.2⟩
    · next hdigit => exact ⟨List.cons_ne_nil _ _, hwords, Bool.eq_false_iff.mpr hdigit⟩

theorem identifier_of_isStem (h : IsStem name) : identifier name = name := by
  have hsame : (name.map fun c => if c.isWord then c else ('_' : CodePoint)) = name := by
    rw [List.map_congr_left fun c hc => if_pos (h.isWord c hc), List.map_id']
  obtain ⟨c, rest, rfl⟩ := List.exists_cons_of_ne_nil h.ne_nil
  have hdigit : c.isDigit = false := h.head
  rw [identifier, hsame]
  exact if_neg (Bool.eq_false_iff.mp hdigit)

/-- A variable has the characters beyond ASCII that the given name has among its letters and
numbers. -/
theorem isAscii_identifier_iff :
    (identifier name).isAscii = true ↔ ∀ c ∈ name, c.isWord = true → c.isAscii = true := by
  have hlow : CodePoint.isAscii '_' = true := by decide
  have hwords : isAscii (name.map fun c => if c.isWord then c else ('_' : CodePoint)) = true ↔
      ∀ c ∈ name, c.isWord = true → c.isAscii = true := by
    rw [isAscii, List.all_eq_true, List.forall_mem_map]
    refine forall₂_congr fun c _ => ?_
    by_cases hc : c.isWord = true <;> simp [hc, hlow]
  rcases identifier_eq name with hname | hname
  · rw [hname, hwords]
  · rw [hname, ← hwords, isAscii, isAscii, List.all_cons, hlow, Bool.true_and]

/-- The variable of a name is a stem, the name itself exactly if that is one. It is a plain name
exactly if all letters and numbers of the given name are in ASCII, and the plain names are the names
in ASCII that stay as they are. -/
theorem identifier_makes_stem (name : Text) :
    IsStem (identifier name) ∧
    (identifier name = name ↔ IsStem name) ∧
    (IsPlain (identifier name) ↔ ∀ c ∈ name, c.isWord = true → c.isAscii = true) ∧
    (IsPlain name ↔ identifier name = name ∧ name.isAscii = true) := by
  have hstem := isStem_identifier name
  have hsame : identifier name = name ↔ IsStem name :=
    ⟨fun heq => heq ▸ hstem, identifier_of_isStem⟩
  refine ⟨hstem, hsame, ?_, ?_⟩
  · rw [isPlain_iff, isAscii_identifier_iff]
    exact and_iff_right hstem
  · rw [isPlain_iff, hsame]

/-- A letter beyond ASCII stays in a variable. -/
theorem identifier_keeps_accent :
    identifier "é" = "é" ∧ ¬ IsPlain (identifier "é") := by
  decide

/-! ## Keys -/

theorem isBare_iff :
    IsBare name ↔ IsPlain name ∨ ∃ w, IsPlain w ∧ name = w ++ [('\n' : CodePoint)] := by
  constructor
  · intro h
    have hplain := isPlain_of_isPlainName h
    rcases eq_or_eq_of_withoutFinalNewline name with hname | hname
    · rw [← hname] at hplain
      exact Or.inl hplain
    · exact Or.inr ⟨_, hplain, hname⟩
  · rintro (hplain | ⟨w, hplain, rfl⟩)
    · have hname := isPlainName_iff.mpr hplain
      rwa [IsBare, withoutFinalNewline_of_isPlainName hname]
    · have hword : withoutFinalNewline (w ++ [('\n' : CodePoint)]) = w := by
        rw [withoutFinalNewline, if_pos List.getLast?_concat, List.dropLast_concat]
      rw [IsBare, hword]
      exact isPlainName_iff.mpr hplain

/-- A key is written without marks exactly if it is a plain name, or one with a line feed behind it,
and between marks otherwise. -/
theorem field_eq_iff (name : Text) :
    (field name = concat [".", name] ↔
      IsPlain name ∨ ∃ w, IsPlain w ∧ name = w ++ [('\n' : CodePoint)]) ∧
    (field name = concat [".@\"", name, "\""] ↔
      ¬ (IsPlain name ∨ ∃ w, IsPlain w ∧ name = w ++ [('\n' : CodePoint)])) := by
  have hbare : concat [".", name] = ('.' : CodePoint) :: name :=
    congrArg _ (List.append_nil name)
  have hmarked : concat [".@\"", name, "\""] =
      ('.' : CodePoint) :: '@' :: .quote :: (name ++ [.quote]) := rfl
  have hne : ('.' : CodePoint) :: name ≠
      ('.' : CodePoint) :: '@' :: .quote :: (name ++ [.quote]) := by
    -- A key between marks is three code points longer.
    intro heq
    simpa using congrArg List.length heq
  rw [hbare, hmarked, ← isBare_iff]
  by_cases h : IsBare name
  · rw [field_of_isBare h]
    exact ⟨iff_of_true rfl h, iff_of_false hne (not_not_intro h)⟩
  · rw [field_of_not_isBare h]
    exact ⟨iff_of_false hne.symm h, iff_of_true rfl h⟩

/-- A line feed gets into a key without marks. -/
theorem field_keeps_newline : field "a\n" = ".a\n" ∧ ¬ IsPlain "a\n" := by decide

end Zig

end ZigAdvisor
