import ZigAdvisor.Flow.LoopNesting
import ZigAdvisor.Proofs.Pattern.Scan
import ZigAdvisor.Proofs.Text.Word

/-!
# Marks and words as tokens

Scans for loops and for calls look for braces and semicolons, each by itself, and for some texts
that begin with a word (`Pattern.Tokens`). Nothing but such a text can start where a word starts,
and only word characters in front of it matter. So a scan of two texts with a brace between them is
a scan of the one and then of the other (`Tokens.scans_append`).
-/

namespace ZigAdvisor

open Text

def IsMark (c : CodePoint) : Prop := c ∈ ofString "\x7b\x7d;"

instance : DecidablePred IsMark := fun c => inferInstanceAs (Decidable (c ∈ ofString "\x7b\x7d;"))

theorem isMark_opening : IsMark ('{' : CodePoint) := by decide

theorem isMark_closing : IsMark ('}' : CodePoint) := by decide

theorem isMark_semicolon : IsMark (';' : CodePoint) := by decide

theorem IsMark.cases {c : CodePoint} (h : IsMark c) :
    c = ('{' : CodePoint) ∨ c = ('}' : CodePoint) ∨ c = (';' : CodePoint) := by
  have hall : ∀ c ∈ ofString "\x7b\x7d;",
      c = ('{' : CodePoint) ∨ c = ('}' : CodePoint) ∨ c = (';' : CodePoint) := by decide
  exact hall c h

theorem isWord_of_isMark {c : CodePoint} (h : IsMark c) : c.isWord = false := by
  have : ∀ c ∈ ofString "\x7b\x7d;", c.isWord = false := by decide
  exact this c h

theorem not_isMark_of_isWord {c : CodePoint} (h : c.isWord = true) : ¬ IsMark c := by
  intro hc
  simp [isWord_of_isMark hc] at h

theorem ne_of_isWord {c : CodePoint} (h : c.isWord = true) : c ≠ '{' ∧ c ≠ '}' ∧ c ≠ ';' := by
  have hmark := not_isMark_of_isWord h
  refine ⟨?_, ?_, ?_⟩
  · rintro rfl
    exact hmark isMark_opening
  · rintro rfl
    exact hmark isMark_closing
  · rintro rfl
    exact hmark isMark_semicolon

theorem isBlank_of_isMark {c : CodePoint} (h : IsMark c) : c.isBlank = false := by
  have : ∀ c ∈ ofString "\x7b\x7d;", c.isBlank = false := by decide
  exact this c h

theorem Text.IsCall.not_isMark {name m : Text} (h : IsCall name m) : ∀ c ∈ m, ¬ IsMark c := by
  obtain ⟨⟨-, hname⟩, blank, hblank, rfl⟩ := h
  intro c hc hm
  rcases List.mem_append.mp hc with hc | hc
  · exact absurd (hname c hc) (by simp [isWord_of_isMark hm])
  · rcases List.mem_append.mp hc with hc | hc
    · exact absurd (hblank c hc) (by simp [isBlank_of_isMark hm])
    · rw [List.mem_singleton.mp hc] at hm
      exact absurd hm (by decide)

namespace Pattern

variable {p : Pattern} {W : Text → Prop} {before last : Option CodePoint} {m t rest : Text}
  {xs ys : List Text} {c : CodePoint}

theorem spans_punctuation :
    (one LoopToken.punctuation).Spans before m rest ↔ ∃ c, IsMark c ∧ m = [c] := by
  simp only [Spans, LoopToken.punctuation, CharSet.mem_of, IsMark]
  exact exists_congr fun c => and_comm

/-- What is spanned is a mark, or one of some texts that begin with a word. -/
structure Tokens (p : Pattern) (W : Text → Prop) : Prop where
  spans_iff : ∀ {before m rest}, p.Spans before m rest ↔
    (¬ AfterWord before ∧ W m) ∨ ∃ c, IsMark c ∧ m = [c]
  exists_cons : ∀ {m}, W m → ∃ c s, m = c :: s ∧ c.isWord = true
  not_isMark : ∀ {m}, W m → ∀ c ∈ m, ¬ IsMark c
  unique : ∀ {m m' rest rest'}, W m → W m' → m ++ rest = m' ++ rest' → m = m'

namespace Tokens

theorem spans_mark (hp : p.Tokens W) (hc : IsMark c) : p.Spans before [c] rest :=
  hp.spans_iff.mpr (Or.inr ⟨c, hc, rfl⟩)

/-- A word and a mark never start at the same place. -/
theorem append_ne_cons (hp : p.Tokens W) (h : W m) (hc : IsMark c) : m ++ rest ≠ c :: t := by
  obtain ⟨x, s, rfl, hx⟩ := hp.exists_cons h
  intro heq
  obtain ⟨rfl, -⟩ := List.cons.inj heq
  simp [isWord_of_isMark hc] at hx

theorem lexical (hp : p.Tokens W) : p.Lexical where
  ne_nil h := by
    rcases hp.spans_iff.mp h with ⟨-, h⟩ | ⟨c, -, rfl⟩
    · obtain ⟨c, s, rfl, -⟩ := hp.exists_cons h
      exact List.cons_ne_nil _ _
    · exact List.cons_ne_nil _ _
  unique h h' heq := by
    rcases hp.spans_iff.mp h with ⟨-, h⟩ | ⟨c, hc, rfl⟩ <;>
      rcases hp.spans_iff.mp h' with ⟨-, h'⟩ | ⟨c', hc', rfl⟩
    · exact hp.unique h h' heq
    · exact absurd heq (hp.append_ne_cons h hc')
    · exact absurd heq.symm (hp.append_ne_cons h' hc)
    · rw [(List.cons.inj heq).1]
  any_rest h rest' := hp.spans_iff.mpr (hp.spans_iff.mp h)

/-- A mark is a token by itself and part of no other token. -/
theorem alone (hp : p.Tokens W) (h : p.Spans before m rest) (hm : c ∈ m) (hc : IsMark c) :
    m = [c] := by
  rcases hp.spans_iff.mp h with ⟨-, h⟩ | ⟨x, -, rfl⟩
  · exact absurd hc (hp.not_isMark h c hm)
  · rw [List.mem_singleton.mp hm]

theorem cases (hp : p.Tokens W) (h : p.Spans before m rest) :
    m = [('{' : CodePoint)] ∨ m = [('}' : CodePoint)] ∨ m = [(';' : CodePoint)] ∨ W m := by
  rcases hp.spans_iff.mp h with ⟨-, h⟩ | ⟨c, hc, rfl⟩
  · exact Or.inr (Or.inr (Or.inr h))
  · rcases hc.cases with rfl | rfl | rfl
    · exact Or.inl rfl
    · exact Or.inr (Or.inl rfl)
    · exact Or.inr (Or.inr (Or.inl rfl))

theorem not_isMark_of_skips (hp : p.Tokens W) (h : p.Skips before (c :: t)) : ¬ IsMark c :=
  fun hc => h [c] t rfl (hp.spans_mark hc)

/-- A token with more than one code point is a word. -/
theorem word_of_append (hp : p.Tokens W) {u v : Text} (h : p.Spans before (u ++ v) rest)
    (hu : u ≠ []) (hv : v ≠ []) : W (u ++ v) := by
  rcases hp.spans_iff.mp h with ⟨-, hword⟩ | ⟨c, -, huv⟩
  · exact hword
  · have hlen := congrArg List.length huv
    have := List.length_pos_iff.mpr hu
    have := List.length_pos_iff.mpr hv
    rw [List.length_append, List.length_singleton] at hlen
    omega

theorem spans_none_iff (hp : p.Tokens W) (h : ¬ AfterWord before) :
    p.Spans none m rest ↔ p.Spans before m rest := by
  have hnone : ¬ AfterWord none := by simp [AfterWord]
  rw [hp.spans_iff, hp.spans_iff, and_iff_right h, and_iff_right hnone]

/-- What stands behind a text that ends with a mark is scanned as if it stood alone. -/
theorem scans_append (hp : p.Tokens W) {s : Text} (hc : IsMark c) (ht : t.getLast? = some c)
    (first : Scans p none t xs (lastOr none t) []) (second : Scans p none s ys last []) :
    ∃ last, Scans p none (t ++ s) (xs ++ ys) last [] := by
  obtain ⟨u, rfl⟩ := List.getLast?_eq_some_iff.mp ht
  rw [lastOr_concat] at first
  have hend : ∀ v x, u ++ [c] = v ++ [x] → x = c := fun v x h =>
    (List.cons.inj (List.append_inj_right' h rfl)).1.symm
  have hbefore : ¬ AfterWord (some c) := not_afterWord_some (isWord_of_isMark hc)
  obtain ⟨last', hsecond⟩ :=
    second.change_before hp.lexical fun m rest => hp.spans_none_iff hbefore
  exact ⟨last', (first.extend hp.lexical (fun h hm => hp.alone h hm hc) hend s).trans hsecond⟩

end Tokens

end Pattern

end ZigAdvisor
