import ZigAdvisor.Proofs.Zig.Quotations

/-!
# Source text in parts

Source text that is put together from code and from texts of others between quotation marks. If
these texts are verbatim, the tokens of the whole are those of its parts (`tokens_write`). And only
then is each of them read as it was written (`quotations_write_iff`): the first that is not verbatim
is read as something else, or its line ends within it.

Code that has no marks holds no quotations, whatever words it is made of, and leaves no token open
if its last code point belongs to no word. A run of letters and digits is one word up to the next
code point of another kind.
-/

namespace ZigAdvisor

open Text

theorem CodePoint.standsRaw_of_isNameChar {c : CodePoint} (h : c.isNameChar = true) :
    c.standsRaw = true := by
  have hlow : CodePoint.val '_' = 0x5F := rfl
  have hval : 0x30 ≤ c.val ∧ c.val ≤ 0x7A := by
    simp only [isNameChar, isAsciiLetter, isAsciiDigit, Bool.or_eq_true, Bool.and_eq_true,
      decide_eq_true_eq, beq_iff_eq] at h
    rcases h with (h | h) | rfl <;> omega
  simp only [standsRaw, Bool.and_eq_true, bne_iff_ne, Bool.not_eq_true', Bool.and_eq_false_iff,
    decide_eq_true_eq, decide_eq_false_iff_not]
  omega

namespace Zig

def IsCode (t : Text) : Prop := Lexer.after .between t = .between

instance (t : Text) : Decidable (IsCode t) :=
  inferInstanceAs (Decidable (Lexer.after .between t = .between))

def quotations (ts : List Token) : List Token := ts.filter Token.isQuotation

inductive Part
  | code (t : Text) (isCode : IsCode t := by repeat rw [ofString_ofList]; decide +kernel)
  /-- A string literal. -/
  | literal (s : Text)
  /-- A name between marks. -/
  | name (s : Text)

namespace Part

def text : Part → Text
  | code t _ => t
  | literal s => .quote :: (s ++ [.quote])
  | name s => '@' :: .quote :: (s ++ [.quote])

def values : Part → List Text
  | code _ _ => []
  | literal s | name s => [s]

def tokens : Part → List Token
  | code t _ => Lexer.emitted .between t
  | literal s => [.quoted .string s]
  | name s => [.quoted .name s]

end Part

def write (parts : List Part) : Text := parts.flatMap Part.text

def values (parts : List Part) : List Text := parts.flatMap Part.values

def meant (parts : List Part) : List Token := quotations (parts.flatMap Part.tokens)

variable {a b rest : Text} {part : Part} {parts : List Part} {l : Lexer} {q : Quotation}
  {v s t w : Text} {c : CodePoint}

/-! ## Code -/

theorem IsCode.append (ha : IsCode a) (hb : IsCode b) : IsCode (a ++ b) := by
  rw [IsCode, Lexer.after_append, ha, hb]

theorem IsCode.emitted_append (ha : IsCode a) :
    Lexer.emitted .between (a ++ b) = Lexer.emitted .between a ++ Lexer.emitted .between b := by
  rw [Lexer.emitted_append, ha]

theorem isCode_line (t : Text) : IsCode (t ++ [('\n' : CodePoint)]) := Lexer.after_newline _ t

/-- A line is read without the lines before it. -/
theorem tokens_append (ha : IsCode a) : tokens (a ++ b) = Lexer.emitted .between a ++ tokens b := by
  rw [tokens, List.append_assoc, ha.emitted_append]
  rfl

theorem tokens_of_isCode (ha : IsCode a) : tokens a = Lexer.emitted .between a := by
  rw [tokens, ha.emitted_append]
  exact List.append_nil _

theorem quotations_append (ts us : List Token) :
    quotations (ts ++ us) = quotations ts ++ quotations us := List.filter_append ..

def strings (texts : List Text) : List Token := texts.map (.quoted .string)

theorem strings_append (texts more : List Text) :
    strings (texts ++ more) = strings texts ++ strings more := List.map_append

theorem strings_flatMap {α : Type} (f : α → List Text) (xs : List α) :
    strings (xs.flatMap f) = xs.flatMap fun x => strings (f x) := List.map_flatMap ..

/-! ## Quotations -/

namespace Lexer

/-- The first token that a quotation leads to is a quotation. -/
theorem quotations_emitted_inside {token : Token} {ts : List Token}
    (h : emitted (inside q []) t = token :: ts) :
    quotations (emitted (inside q []) t) = token :: quotations ts := by
  have hreads : Reads (inside q []) q [] := Or.inl rfl
  have hkind := hreads.eq_broken_or (congrArg List.head? h)
  rw [h]
  rcases hkind with rfl | ⟨w, rfl⟩ <;> rfl

theorem quotations_emitted_iff (hq : q.mark = .quote) {ts : List Token} :
    quotations (emitted (inside q []) (s ++ .quote :: rest)) = .quoted q s :: ts ↔
      Verbatim s ∧ quotations (emitted between rest) = ts := by
  constructor
  · intro h
    have hhead : (emitted (inside q []) (s ++ .quote :: rest)).head? = some (.quoted q s) := by
      cases hread : emitted (inside q []) (s ++ .quote :: rest) with
      | nil =>
        rw [hread] at h
        cases h
      | cons token us =>
        rw [quotations_emitted_inside hread] at h
        rw [(List.cons.inj h).1]
        rfl
    have hs := verbatim_of_head? hq hhead
    rw [emitted_quotation hq hs] at h
    exact ⟨hs, (List.cons.inj h).2⟩
  · rintro ⟨hs, rfl⟩
    rw [emitted_quotation hq hs]
    rfl

end Lexer

/-! ## Texts in parts -/

@[simp] theorem write_nil : write [] = [] := rfl

theorem write_cons (part : Part) (parts : List Part) :
    write (part :: parts) = part.text ++ write parts := List.flatMap_cons

theorem write_append (parts more : List Part) : write (parts ++ more) = write parts ++ write more :=
  List.flatMap_append

theorem write_flatMap {α : Type} {f : α → List Part} {g : α → Text} (h : ∀ x, write (f x) = g x)
    (xs : List α) : write (xs.flatMap f) = xs.flatMap g := by
  rw [write, List.flatMap_assoc]
  exact List.flatMap_congr fun x _ => h x

theorem values_cons (part : Part) (parts : List Part) :
    values (part :: parts) = part.values ++ values parts := List.flatMap_cons

theorem values_append (parts more : List Part) :
    values (parts ++ more) = values parts ++ values more := List.flatMap_append

theorem values_flatMap {α : Type} {f : α → List Part} {g : α → List Text}
    (h : ∀ x, values (f x) = g x) (xs : List α) : values (xs.flatMap f) = xs.flatMap g := by
  rw [values, List.flatMap_assoc]
  exact List.flatMap_congr fun x _ => h x

@[simp] theorem meant_nil : meant [] = [] := rfl

theorem meant_cons (part : Part) (parts : List Part) :
    meant (part :: parts) = quotations part.tokens ++ meant parts := by
  rw [meant, List.flatMap_cons, quotations_append]
  rfl

theorem meant_append (parts more : List Part) :
    meant (parts ++ more) = meant parts ++ meant more := by
  rw [meant, List.flatMap_append, quotations_append]
  rfl

theorem meant_flatMap {α : Type} {f : α → List Part} {g : α → List Token}
    (h : ∀ x, meant (f x) = g x) (xs : List α) : meant (xs.flatMap f) = xs.flatMap g := by
  induction xs with
  | nil => rfl
  | cons x xs ih => rw [List.flatMap_cons, List.flatMap_cons, meant_append, h, ih]

/-- Up to the end of the text, every quotation is read as it was written if and only if all of them
are verbatim. -/
theorem quotations_emitted_write_iff {ts : List Token} :
    quotations (Lexer.emitted .between (write parts ++ rest)) = meant parts ++ ts ↔
      (∀ s ∈ values parts, Verbatim s) ∧ quotations (Lexer.emitted .between rest) = ts := by
  induction parts with
  | nil => simp [values]
  | cons part parts ih =>
    rw [write_cons, meant_cons, values_cons, List.append_assoc, List.forall_mem_append, and_assoc,
      ← ih, List.append_assoc]
    cases part with
    | code t isCode =>
      rw [Part.text, IsCode.emitted_append isCode, quotations_append, Part.tokens,
        List.append_cancel_left_eq]
      simp [Part.values]
    | literal s =>
      rw [Part.text, Part.values, List.forall_mem_singleton, List.cons_append, List.append_assoc]
      exact Lexer.quotations_emitted_iff rfl
    | name s =>
      rw [Part.text, Part.values, List.forall_mem_singleton, List.cons_append, List.cons_append,
        List.append_assoc]
      exact Lexer.quotations_emitted_iff rfl

theorem quotations_write_iff :
    quotations (tokens (write parts)) = meant parts ↔ ∀ s ∈ values parts, Verbatim s := by
  have hfeed : quotations (Lexer.emitted .between [('\n' : CodePoint)]) = [] := rfl
  rw [tokens, ← List.append_nil (meant parts), quotations_emitted_write_iff, and_iff_left hfeed]

theorem emitted_part (h : ∀ s ∈ part.values, Verbatim s) :
    Lexer.emitted .between (part.text ++ rest) = part.tokens ++ Lexer.emitted .between rest := by
  cases part with
  | code t isCode => exact isCode.emitted_append
  | literal s =>
    rw [Part.text, List.cons_append, List.append_assoc]
    exact Lexer.emitted_quotation rfl (h s (List.mem_singleton_self s))
  | name s =>
    rw [Part.text, List.cons_append, List.cons_append, List.append_assoc]
    exact Lexer.emitted_quotation rfl (h s (List.mem_singleton_self s))

theorem tokens_part (h : ∀ s ∈ part.values, Verbatim s) :
    tokens (part.text ++ t) = part.tokens ++ tokens t := by
  rw [tokens, List.append_assoc, emitted_part h]
  rfl

/-- If all that is put between marks is verbatim, a text is read part by part. -/
theorem emitted_write (h : ∀ s ∈ values parts, Verbatim s) :
    Lexer.emitted .between (write parts ++ rest) =
      parts.flatMap Part.tokens ++ Lexer.emitted .between rest := by
  induction parts with
  | nil => rfl
  | cons part parts ih =>
    rw [values_cons, List.forall_mem_append] at h
    rw [write_cons, List.flatMap_cons, List.append_assoc, List.append_assoc, emitted_part h.1,
      ih h.2]

theorem tokens_write (h : ∀ s ∈ values parts, Verbatim s) :
    tokens (write parts) = parts.flatMap Part.tokens := by
  rw [tokens, emitted_write h]
  exact List.append_nil _

/-! ## Words and signs -/

/-- A code point that neither opens a quotation nor a remark. -/
def Quiet (c : CodePoint) : Prop :=
  c ≠ .quote ∧ c ≠ .apostrophe ∧ c ≠ '@' ∧ c ≠ '/' ∧ c ≠ .backslash

instance (c : CodePoint) : Decidable (Quiet c) :=
  inferInstanceAs (Decidable (c ≠ .quote ∧ c ≠ .apostrophe ∧ c ≠ '@' ∧ c ≠ '/' ∧ c ≠ .backslash))

theorem quiet_of_isNameChar {c : CodePoint} (h : c.isNameChar = true) : Quiet c := by
  refine ⟨?_, ?_, ?_, ?_, ?_⟩
  all_goals
    rintro rfl
    exact absurd h (by decide)

theorem verbatim_of_isNameChar {t : Text} (h : ∀ c ∈ t, c.isNameChar = true) : Verbatim t :=
  fun c hc => ⟨CodePoint.standsRaw_of_isNameChar (h c hc), (quiet_of_isNameChar (h c hc)).1,
    (quiet_of_isNameChar (h c hc)).2.2.2.2⟩

namespace Lexer

variable {l : Lexer} {c : CodePoint} {t u w rest : Text}

theorem isQuotation_ofSign (c : CodePoint) : (Token.ofSign c).isQuotation = false := by
  unfold Token.ofSign
  split_ifs <;> rfl

def IsOpen (l : Lexer) : Prop := l = between ∨ ∃ t, l = inWord t

theorem start_nameChar (h : c.isNameChar = true) : start c = ([], inWord [c]) := by
  rw [start, if_pos h]

theorem start_quiet (hquiet : Quiet c) (h : c.isNameChar = false) :
    (start c).2 = between ∧ quotations (start c).1 = [] := by
  obtain ⟨hquote, hapostrophe, hat, hsolidus, hbackslash⟩ := hquiet
  rw [start, if_neg (by simp [h]), if_neg hquote, if_neg hapostrophe, if_neg hat, if_neg hsolidus,
    if_neg hbackslash]
  split_ifs
  · exact ⟨rfl, rfl⟩
  · exact ⟨rfl, by simp [quotations, isQuotation_ofSign]⟩

theorem IsOpen.step_nameChar (hl : l.IsOpen) (h : c.isNameChar = true) :
    (l.step c).2.IsOpen ∧ (l.step c).1 = [] := by
  rcases hl with rfl | ⟨t, rfl⟩
  · rw [step, start_nameChar h]
    exact ⟨Or.inr ⟨_, rfl⟩, rfl⟩
  · rw [step, if_pos h]
    exact ⟨Or.inr ⟨_, rfl⟩, rfl⟩

theorem IsOpen.step_quiet (hl : l.IsOpen) (hquiet : Quiet c) (h : c.isNameChar = false) :
    (l.step c).2 = between ∧ quotations (l.step c).1 = [] := by
  have hstart := start_quiet hquiet h
  rcases hl with rfl | ⟨t, rfl⟩
  · exact hstart
  · rw [step, if_neg (by simp [h])]
    exact hstart

theorem IsOpen.after_quiet (hl : l.IsOpen) (ht : ∀ c ∈ t, Quiet c) :
    (after l t).IsOpen ∧ quotations (emitted l t) = [] := by
  induction t generalizing l with
  | nil => exact ⟨hl, rfl⟩
  | cons c t ih =>
    rw [List.forall_mem_cons] at ht
    rw [after_cons, emitted_cons, quotations_append]
    by_cases h : c.isNameChar = true
    · obtain ⟨hnext, hnone⟩ := hl.step_nameChar h
      rw [hnone]
      exact ih hnext ht.2
    · obtain ⟨hnext, hnone⟩ := hl.step_quiet ht.1 (by simpa using h)
      rw [hnone, hnext]
      exact ih (Or.inl rfl) ht.2

/-- A word that has begun takes in what follows of it. -/
theorem emitted_inWord (hw : ∀ d ∈ w, d.isNameChar = true) (h : c.isNameChar = false) :
    emitted (inWord t) (w ++ c :: rest) = .word (t ++ w) :: emitted between (c :: rest) := by
  induction w generalizing t with
  | nil =>
    rw [List.nil_append, List.append_nil, emitted_cons, step, if_neg (by simp [h])]
    rfl
  | cons d w ih =>
    rw [List.forall_mem_cons] at hw
    rw [List.cons_append, emitted_cons, step, if_pos hw.1, ih hw.2, List.append_assoc]
    rfl

/-- A run of letters and digits is one word. -/
theorem emitted_word (hne : w ≠ []) (hw : ∀ d ∈ w, d.isNameChar = true)
    (h : c.isNameChar = false) :
    emitted between (w ++ c :: rest) = .word w :: emitted between (c :: rest) := by
  obtain ⟨d, w, rfl⟩ := List.exists_cons_of_ne_nil hne
  rw [List.forall_mem_cons] at hw
  rw [List.cons_append, emitted_cons, step, start_nameChar hw.1]
  exact emitted_inWord hw.2 h

theorem emitted_passing (ht : ('\n' : CodePoint) ∉ t) :
    emitted passing (t ++ ('\n' : CodePoint) :: rest) = emitted between rest := by
  induction t with
  | nil => rfl
  | cons c t ih =>
    rw [List.mem_cons, not_or] at ht
    rw [List.cons_append, emitted_cons, step, if_neg (Ne.symm ht.1), ih ht.2]
    rfl

end Lexer

variable {c : CodePoint} {t : Text}

theorem isCode_of_quiet (ht : ∀ c ∈ t, Quiet c) (hquiet : Quiet c) (h : c.isNameChar = false) :
    IsCode (t ++ [c]) := by
  have hopen := (Lexer.IsOpen.after_quiet (Or.inl rfl) ht).1
  rw [IsCode, Lexer.after_append]
  exact (hopen.step_quiet hquiet h).1

def remarks (lines : List Text) : Text :=
  lines.flatMap fun line => ofString "//" ++ (line ++ [('\n' : CodePoint)])

theorem emitted_remarks {lines : List Text} (h : ∀ line ∈ lines, ('\n' : CodePoint) ∉ line)
    (rest : Text) :
    Lexer.emitted .between (remarks lines ++ rest) = Lexer.emitted .between rest := by
  induction lines with
  | nil => rfl
  | cons line lines ih =>
    rw [List.forall_mem_cons] at h
    rw [remarks, List.flatMap_cons, List.append_assoc, List.append_assoc, List.append_assoc,
      ← ih h.2]
    exact Lexer.emitted_passing h.1

theorem quotations_of_quiet (ht : ∀ c ∈ t, Quiet c) :
    quotations (Lexer.emitted .between t) = [] :=
  (Lexer.IsOpen.after_quiet (Or.inl rfl) ht).2

end Zig

end ZigAdvisor
