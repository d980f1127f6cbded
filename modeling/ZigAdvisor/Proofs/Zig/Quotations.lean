import ZigAdvisor.Proofs.Zig.Lexer

/-!
# Texts between quotation marks

A text between quotation marks is read as itself exactly if it is verbatim, which is without
quotation marks, backslashes and whatever may not stand in a literal as it is
(`verbatim_of_head?`, `emitted_quotation`). For the one direction a reader takes the text in as it
stands. For the other, a mark closes the literal too early, and each escape stands for one code
point where the text has two at least, so that what is read falls short of the text.
-/

namespace ZigAdvisor.Zig

open Text

def Verbatim (s : Text) : Prop :=
  ∀ c ∈ s, c.standsRaw = true ∧ c ≠ .quote ∧ c ≠ .backslash

instance (s : Text) : Decidable (Verbatim s) :=
  inferInstanceAs (Decidable (∀ c ∈ s, c.standsRaw = true ∧ c ≠ .quote ∧ c ≠ .backslash))

variable {q : Quotation} {a s t v w e rest : Text} {c : CodePoint}

theorem verbatim_cons : Verbatim (c :: s) ↔
    (c.standsRaw = true ∧ c ≠ .quote ∧ c ≠ .backslash) ∧ Verbatim s := List.forall_mem_cons

theorem verbatim_append : Verbatim (a ++ s) ↔ Verbatim a ∧ Verbatim s := List.forall_mem_append

theorem ne_newline_of_standsRaw (h : c.standsRaw = true) : c ≠ '\n' := by
  rintro rfl
  exact absurd h (by decide)

namespace Lexer

/-! ## Steps inside a quotation -/

theorem step_inside_quote (hq : q.mark = .quote) :
    (inside q v).step .quote = ([.quoted q v], between) := by
  rw [step, if_neg (by decide), if_pos hq.symm]

theorem step_inside_backslash (hq : q.mark = .quote) :
    (inside q v).step .backslash = ([], escaping q v []) := by
  rw [step, if_neg (by decide), if_neg (by rw [hq]; decide), if_pos rfl]

theorem step_inside (hq : q.mark = .quote) (hfeed : c ≠ '\n') (hquote : c ≠ .quote)
    (hbackslash : c ≠ .backslash) :
    (inside q v).step c = ([], if c.standsRaw then inside q (v ++ [c]) else spoilt) := by
  rw [step, if_neg hfeed, if_neg (by rwa [hq]), if_neg hbackslash]

theorem step_escaping (hfeed : c ≠ '\n') : (escaping q v e).step c =
    match escapeValue? (e ++ [c]) with
    | some d => ([], inside q (v ++ [d]))
    | none => ([], if escapeGoesOn (e ++ [c]) then escaping q v (e ++ [c]) else spoilt) :=
  if_neg hfeed

/-! ## Verbatim texts -/

theorem after_verbatim (hq : q.mark = .quote) (h : Verbatim s) :
    after (inside q v) s = inside q (v ++ s) := by
  induction s generalizing v with
  | nil => rw [List.append_nil]; rfl
  | cons c s ih =>
    obtain ⟨⟨hraw, hquote, hbackslash⟩, hs⟩ := verbatim_cons.mp h
    rw [after_cons, step_inside hq (ne_newline_of_standsRaw hraw) hquote hbackslash, if_pos hraw,
      ih hs, List.append_assoc]
    rfl

theorem emitted_verbatim (hq : q.mark = .quote) (h : Verbatim s) :
    emitted (inside q v) s = [] := by
  induction s generalizing v with
  | nil => rfl
  | cons c s ih =>
    obtain ⟨⟨hraw, hquote, hbackslash⟩, hs⟩ := verbatim_cons.mp h
    rw [emitted_cons, step_inside hq (ne_newline_of_standsRaw hraw) hquote hbackslash, if_pos hraw,
      ih hs]
    rfl

/-- A verbatim text is read as it stands. -/
theorem emitted_quotation (hq : q.mark = .quote) (h : Verbatim s) :
    emitted (inside q []) (s ++ .quote :: rest) = .quoted q s :: emitted between rest := by
  rw [emitted_append, emitted_verbatim hq h, after_verbatim hq h, emitted_cons,
    step_inside_quote hq]
  rfl

/-! ## What a quotation is read as -/

theorem eq_broken_of_spoilt {token : Token} (h : (emitted spoilt t).head? = some token) :
    token = .broken := by
  induction t with
  | nil => cases h
  | cons c t ih =>
    rw [emitted_cons, step] at h
    split_ifs at h
    · exact (Option.some.inj h).symm
    · exact ih h

theorem head?_emitted_spoilt : (emitted spoilt t).head? ≠ some (.quoted q w) := by
  intro h
  cases eq_broken_of_spoilt h

/-- Whether a reader is in a quotation, with the given part of its value. -/
def Reads (l : Lexer) (q : Quotation) (v : Text) : Prop :=
  l = inside q v ∨ ∃ e, l = escaping q v e

inductive StepsTo (q : Quotation) (v : Text) : List Token × Lexer → Prop
  | broken : StepsTo q v ([.broken], between)
  | closed : StepsTo q v ([.quoted q v], between)
  | more {l w} (hl : l.Reads q (v ++ w)) : StepsTo q v ([], l)
  | spoilt : StepsTo q v ([], spoilt)

theorem Reads.steps {l : Lexer} (h : l.Reads q v) (c : CodePoint) : StepsTo q v (l.step c) := by
  rcases h with rfl | ⟨e, rfl⟩
  · rw [step]
    split_ifs
    · exact .broken
    · exact .closed
    · exact .more (w := []) (Or.inr ⟨[], by rw [List.append_nil]⟩)
    · exact .more (Or.inl rfl)
    · exact .spoilt
  · by_cases hfeed : c = '\n'
    · subst hfeed
      exact .broken
    · rw [step_escaping hfeed]
      cases escapeValue? (e ++ [c]) with
      | some d => exact .more (Or.inl rfl)
      | none =>
        split_ifs
        · exact .more (w := []) (Or.inr ⟨_, by rw [List.append_nil]⟩)
        · exact .spoilt

/-- A quotation is read as one of its kind, or it is broken. -/
theorem Reads.eq_broken_or {l : Lexer} (h : l.Reads q v) {token : Token}
    (hread : (emitted l t).head? = some token) : token = .broken ∨ ∃ w, token = .quoted q w := by
  induction t generalizing l v with
  | nil => cases hread
  | cons c t ih =>
    rw [emitted_cons] at hread
    obtain hstep := h.steps c
    generalize l.step c = r at hstep hread
    cases hstep with
    | broken => exact Or.inl (Option.some.inj hread).symm
    | closed => exact Or.inr ⟨_, (Option.some.inj hread).symm⟩
    | more hl => exact ih hl hread
    | spoilt => exact Or.inl (eq_broken_of_spoilt hread)

/-- What has been read of a value stays at its front. -/
theorem Reads.prefix_value {l : Lexer} (h : l.Reads q v)
    (hread : (emitted l t).head? = some (.quoted q w)) : v <+: w := by
  induction t generalizing l v with
  | nil => cases hread
  | cons c t ih =>
    rw [emitted_cons] at hread
    obtain hstep := h.steps c
    generalize l.step c = r at hstep hread
    cases hstep with
    | broken => cases hread
    | closed =>
      cases hread
      exact List.prefix_rfl
    | more hl => exact (List.prefix_append v _).trans (ih hl hread)
    | spoilt => exact absurd hread head?_emitted_spoilt

theorem hexValue?_quote : CodePoint.quote.hexValue? = none := by decide

theorem hexNumber?_quote (digits : Text) : hexNumber? (digits ++ [.quote]) = none := by
  have hmark : [CodePoint.quote].mapM CodePoint.hexValue? = none := by decide
  rw [hexNumber?, List.mapM_append, hmark]
  cases digits.mapM CodePoint.hexValue? <;> rfl

theorem bracedEscape?_quote (digits : Text) : bracedEscape? (digits ++ [.quote]) = none := by
  cases digits with
  | nil => rfl
  | cons c digits =>
    rw [List.cons_append, bracedEscape?, if_neg]
    rintro ⟨-, hlast, -⟩
    rw [List.getLast?_concat] at hlast
    exact absurd (Option.some.inj hlast) (by decide)

/-- No escape but its own ends at a quotation mark. -/
theorem escapeValue?_quote (hne : e ≠ []) : escapeValue? (e ++ [.quote]) = none := by
  obtain ⟨kind, digits, rfl⟩ := List.exists_cons_of_ne_nil hne
  have hescape : escapeValue? (kind :: (digits ++ [.quote])) =
      if kind = 'x' then byteEscape? (digits ++ [.quote])
      else if kind = 'u' then bracedEscape? (digits ++ [.quote]) else none := by
    cases digits <;> rfl
  have hbyte : byteEscape? (digits ++ [.quote]) = none := by
    rw [byteEscape?, hexNumber?_quote, Option.bind_none, ite_self]
  rw [List.cons_append, hescape, hbyte, bracedEscape?_quote, ite_self, ite_self]

theorem all_hexValue?_quote (digits : Text) :
    (digits ++ [CodePoint.quote]).all (·.hexValue?.isSome) = false := by
  rw [List.all_append, List.all_cons, hexValue?_quote]
  exact Bool.and_false _

/-- No escape goes on behind a quotation mark. -/
theorem escapeGoesOn_quote : escapeGoesOn (e ++ [.quote]) = false := by
  cases e with
  | nil => decide
  | cons kind digits =>
    have hbraced : bracedGoesOn (digits ++ [.quote]) = false := by
      cases digits with
      | nil => decide
      | cons c digits =>
        rw [List.cons_append, bracedGoesOn, all_hexValue?_quote, Bool.and_false]
    rw [List.cons_append, escapeGoesOn, all_hexValue?_quote, hbraced, Bool.and_false, ite_self,
      ite_self]

def Falls (w : Text) (n : ℕ) : Prop := w.length < n ∨ .quote ∈ w.take n

theorem Falls.mono {m n : ℕ} (h : Falls w m) (hle : m ≤ n) : Falls w n := by
  rcases h with h | h
  · exact Or.inl (h.trans_le hle)
  · exact Or.inr ((List.take_prefix_take_left hle).subset h)

theorem falls_of_mark (h : v ++ [.quote] <+: w) : Falls w (v.length + 1) := by
  obtain ⟨x, rfl⟩ := h
  right
  rw [List.take_append_of_le_length (by simp), List.take_of_length_le (by simp)]
  exact List.mem_append_right _ (List.mem_singleton_self _)

/-- Whether a reader is in a quotation, `k` code points behind the given part of its value. -/
inductive Lags (q : Quotation) (v : Text) : ℕ → Lexer → Prop
  | inside : Lags q v 0 (inside q v)
  | escaping (e : Text) : Lags q v (e.length + 1) (escaping q v e)

inductive LagsTo (q : Quotation) (v : Text) : ℕ → CodePoint → List Token × Lexer → Prop
  | broken (k : ℕ) (c : CodePoint) : LagsTo q v k c ([.broken], between)
  | spoilt (k : ℕ) (c : CodePoint) : LagsTo q v k c ([], spoilt)
  | taken (c : CodePoint) (hc : Verbatim [c]) : LagsTo q v 0 c ([], inside q (v ++ [c]))
  | escape (k : ℕ) (c : CodePoint) (l : Lexer) (hl : Lags q v (k + 1) l) : LagsTo q v k c ([], l)
  | value (k : ℕ) (c d : CodePoint) (hk : 0 < k) : LagsTo q v k c ([], inside q (v ++ [d]))

theorem Lags.steps (hq : q.mark = .quote) (hc : c ≠ .quote) {l : Lexer} {k : ℕ}
    (hl : Lags q v k l) : LagsTo q v k c (l.step c) := by
  by_cases hfeed : c = '\n'
  · subst hfeed
    cases hl <;> exact .broken _ _
  cases hl with
  | inside =>
    by_cases hbackslash : c = .backslash
    · subst hbackslash
      rw [step_inside_backslash hq]
      exact .escape _ _ _ (.escaping [])
    · rw [step_inside hq hfeed hc hbackslash]
      split_ifs with hraw
      · exact .taken _ (List.forall_mem_singleton.mpr ⟨hraw, hc, hbackslash⟩)
      · exact .spoilt _ _
  | escaping e =>
    rw [step_escaping hfeed]
    cases escapeValue? (e ++ [c]) with
    | some d => exact .value _ _ d (Nat.succ_pos _)
    | none =>
      dsimp only
      split_ifs
      · have hlags : Lags q v ((e ++ [c]).length + 1) (Lexer.escaping q v (e ++ [c])) :=
          .escaping _
        rw [List.length_append, List.length_singleton] at hlags
        exact .escape _ _ _ hlags
      · exact .spoilt _ _

/-- A mark closes a quotation, but behind the beginning of an escape it is read as part of the
value or spoils it. -/
theorem Lags.value_quote (hq : q.mark = .quote) {l : Lexer} {k : ℕ} (hl : Lags q v k l)
    (hread : (emitted l (.quote :: rest)).head? = some (.quoted q w)) :
    k = 0 ∧ w = v ∨ Falls w (v.length + k) := by
  rw [emitted_cons] at hread
  cases hl with
  | inside =>
    rw [step_inside_quote hq] at hread
    cases hread
    exact Or.inl ⟨rfl, rfl⟩
  | escaping e =>
    rw [step_escaping (by decide)] at hread
    by_cases he : e = []
    · subst he
      have hreads : Reads (Lexer.inside q (v ++ [.quote])) q (v ++ [.quote]) := Or.inl rfl
      exact Or.inr (falls_of_mark (hreads.prefix_value hread))
    · rw [escapeValue?_quote he, escapeGoesOn_quote] at hread
      exact absurd hread head?_emitted_spoilt

/-- A value that is read beyond a text without quotation marks is this text, or falls short of
it. -/
theorem Lags.value (hq : q.mark = .quote) (ha : .quote ∉ a) {l : Lexer} {k : ℕ} (hl : Lags q v k l)
    (hread : (emitted l (a ++ .quote :: rest)).head? = some (.quoted q w)) :
    k = 0 ∧ Verbatim a ∧ w = v ++ a ∨ Falls w (v.length + k + a.length) := by
  induction a generalizing l v k with
  | nil =>
    rcases hl.value_quote hq hread with ⟨hk, rfl⟩ | h
    · exact Or.inl ⟨hk, List.forall_mem_nil _, (List.append_nil _).symm⟩
    · exact Or.inr h
  | cons c a ih =>
    rw [List.mem_cons, not_or] at ha
    rw [List.cons_append, emitted_cons] at hread
    rw [List.length_cons]
    have hlength (d : CodePoint) : (v ++ [d]).length = v.length + 1 := List.length_append
    have hstep := hl.steps hq (Ne.symm ha.1)
    generalize l.step c = r at hstep hread
    cases hstep with
    | broken => cases hread
    | spoilt => exact absurd hread head?_emitted_spoilt
    | taken _ hc =>
      rcases ih ha.2 .inside hread with ⟨-, hverbatim, rfl⟩ | h
      · exact Or.inl ⟨rfl, verbatim_append.mpr ⟨hc, hverbatim⟩, List.append_assoc ..⟩
      · rw [hlength] at h
        exact Or.inr (h.mono (by omega))
    | escape _ _ _ hl =>
      rcases ih ha.2 hl hread with ⟨hk, -⟩ | h
      · exact absurd hk (Nat.succ_ne_zero _)
      · exact Or.inr (h.mono (by omega))
    | value _ _ d hk =>
      -- An escape of two code points at least gives one code point of the value.
      rcases ih ha.2 .inside hread with ⟨-, -, rfl⟩ | h
      · refine Or.inr (Or.inl ?_)
        rw [List.length_append, hlength]
        omega
      · rw [hlength] at h
        exact Or.inr (h.mono (by omega))

/-- A text between quotation marks is read as itself only if it is verbatim. -/
theorem verbatim_of_head? (hq : q.mark = .quote)
    (hread : (emitted (inside q []) (s ++ .quote :: rest)).head? = some (.quoted q s)) :
    Verbatim s := by
  -- The text up to the first mark of its own, or all of it.
  by_cases hmark : .quote ∈ s
  · obtain ⟨a, b, rfl, ha⟩ := List.eq_append_cons_of_mem hmark
    rw [List.append_assoc, List.cons_append] at hread
    rcases Lags.value hq ha .inside hread with ⟨-, -, h⟩ | h | h
    · simp at h
    · simp at h
    · exact absurd (by simpa using h) ha
  · rcases Lags.value hq hmark .inside hread with ⟨-, h, -⟩ | h | h
    · exact h
    · simp at h
    · exact absurd (List.mem_of_mem_take h) hmark

end Lexer

end ZigAdvisor.Zig
