import ZigAdvisor.Flow.SelfCalls
import ZigAdvisor.Proofs.Flow.Tokens

/-!
# Scanning for functions and calls

A function header is `fn`, blanks, and a call of the function's name. The tokens of a text are its
function headers, the calls outside of them, braces and semicolons, found by one scan
(`CallToken.scan_eq`). A header is never mistaken for a call, since no parenthesis follows `fn`.
-/

namespace ZigAdvisor

open Text

variable {before last : Option CodePoint} {name name' m m' t u v rest rest' : Text}

def IsFunction (name m : Text) : Prop :=
  ∃ gap call : Text, gap ≠ [] ∧ (∀ c ∈ gap, c.isBlank = true) ∧ IsCall name call ∧
    m = ofString "fn" ++ (gap ++ call)

theorem isName_fn : IsName (ofString "fn") := ⟨by decide, by decide⟩

/-- A word character is no blank. -/
theorem isBlank_of_isWord {c : CodePoint} (h : c.isWord = true) : c.isBlank = false := by
  cases hc : c.isBlank with
  | false => rfl
  | true => simp [CodePoint.isWord_eq_false_of_isBlank hc] at h

namespace IsFunction

theorem exists_cons (h : IsFunction name m) : ∃ c s, m = c :: s ∧ c.isWord = true := by
  obtain ⟨gap, call, -, -, -, rfl⟩ := h
  exact ⟨'f', _, rfl, by decide⟩

theorem isName (h : IsFunction name m) : IsName name := by
  obtain ⟨gap, call, -, -, hcall, -⟩ := h
  exact hcall.1

theorem unique (h : IsFunction name m) (h' : IsFunction name' m')
    (heq : m ++ rest = m' ++ rest') : m = m' := by
  obtain ⟨gap, call, -, hgap, hcall, rfl⟩ := h
  obtain ⟨gap', call', -, hgap', hcall', rfl⟩ := h'
  obtain ⟨x, s, hs, hx⟩ := hcall.exists_cons
  obtain ⟨x', s', hs', hx'⟩ := hcall'.exists_cons
  have hbehind : gap ++ (call ++ rest) = gap' ++ (call' ++ rest') := by
    simpa only [List.append_assoc, List.append_cancel_left_eq] using heq
  rw [hs, hs'] at hbehind
  obtain ⟨rfl, rfl, hrest⟩ :=
    run_unique hgap hgap' (isBlank_of_isWord hx) (isBlank_of_isWord hx') hbehind
  have hcalls : call ++ rest = call' ++ rest' := by
    rw [hs, hs']
    exact congrArg (x :: ·) hrest
  rw [(hcall.unique hcall' hcalls).2]

/-- No text begins with a function header and with a call. -/
theorem ne_call (h : IsFunction name m) (h' : IsCall name' m') : m ++ rest ≠ m' ++ rest' := by
  intro heq
  obtain ⟨gap, call, hne, hgap, hcall, rfl⟩ := h
  obtain ⟨⟨-, hname'⟩, gap', hgap', rfl⟩ := h'
  obtain ⟨x, s, rfl⟩ := List.exists_cons_of_ne_nil hne
  obtain ⟨x', s', hs'⟩ := List.exists_cons_of_ne_nil (List.concat_ne_nil ('(' : CodePoint) gap')
  have hx : x.isWord = false := CodePoint.isWord_eq_false_of_isBlank (hgap x List.mem_cons_self)
  have hx' := isWord_of_mem_gap hgap' x' (hs' ▸ List.mem_cons_self)
  have heq' : ofString "fn" ++ x :: (s ++ (call ++ rest)) = name' ++ x' :: (s' ++ rest') := by
    rw [hs'] at heq
    simpa only [List.append_assoc, List.cons_append] using heq
  obtain ⟨-, rfl, hrest⟩ := run_unique isName_fn.2 hname' hx hx' heq'
  -- Behind the blanks the header goes on with a word and the call with a parenthesis.
  obtain ⟨d, r, rfl, hd⟩ := hcall.exists_cons
  have hblanks : (x :: s) ++ d :: (r ++ rest) = gap' ++ ('(' : CodePoint) :: rest' := by
    rw [List.append_cons gap', hs', List.cons_append, List.cons_append, ← hrest, List.cons_append]
  obtain ⟨-, rfl, -⟩ := run_unique hgap hgap' (isBlank_of_isWord hd) isBlank_paren hblanks
  simp [isWord_paren] at hd

theorem not_isMark (h : IsFunction name m) : ∀ c ∈ m, ¬ IsMark c := by
  obtain ⟨gap, call, -, hgap, hcall, rfl⟩ := h
  intro c hc hm
  rcases List.mem_append.mp hc with hc | hc
  · exact absurd (isName_fn.2 c hc) (by simp [isWord_of_isMark hm])
  · rcases List.mem_append.mp hc with hc | hc
    · exact absurd (hgap c hc) (by simp [isBlank_of_isMark hm])
    · exact hcall.not_isMark c hc hm

end IsFunction

def IsCallWord (m : Text) : Prop := (∃ name, IsFunction name m) ∨ ∃ name, IsCall name m

namespace Pattern

def callTokens : Pattern := anyOf [functionHeader, anyCall, LoopToken.punctuation]

theorem spans_nameCall : (seq Pattern.name (seq blanks (lit "("))).Spans before m rest ↔
    ∃ name, IsCall name m := by
  constructor
  · rintro ⟨x, y, rfl, hx, hy⟩
    obtain ⟨gap, hgap, rfl⟩ := spans_opening.mp hy
    exact ⟨x, spans_name.mp hx, gap, hgap, rfl⟩
  · rintro ⟨name, hname, gap, hgap, rfl⟩
    exact ⟨name, _, rfl, spans_name.mpr hname, spans_opening.mpr ⟨gap, hgap, rfl⟩⟩

theorem spans_anyCall :
    anyCall.Spans before m rest ↔ ¬ AfterWord before ∧ ∃ name, IsCall name m := by
  rw [show anyCall = seq wordEdge (seq Pattern.name (seq blanks (lit "("))) from rfl,
    spans_wordEdge_word, spans_nameCall]
  intro h
  obtain ⟨name, hname⟩ := spans_nameCall.mp h
  exact hname.exists_cons

theorem spans_functionHeader :
    functionHeader.Spans before m rest ↔ ¬ AfterWord before ∧ ∃ name, IsFunction name m := by
  have key : (seq (lit "fn") (seq gap (seq Pattern.name (seq blanks (lit "("))))).Spans
      before m rest ↔ ∃ name, IsFunction name m := by
    rw [spans_lit_seq]
    constructor
    · rintro ⟨_, rfl, x, y, rfl, hx, hy⟩
      obtain ⟨name, hname⟩ := spans_nameCall.mp hy
      exact ⟨name, x, y, (spans_gap.mp hx).1, (spans_gap.mp hx).2, hname, rfl⟩
    · rintro ⟨name, gap, call, hne, hgap, hcall, rfl⟩
      exact ⟨_, rfl, gap, call, rfl, spans_gap.mpr ⟨hne, hgap⟩, spans_nameCall.mpr ⟨name, hcall⟩⟩
  rw [show functionHeader = seq wordEdge (seq (lit "fn") (seq gap
    (seq Pattern.name (seq blanks (lit "("))))) from rfl, spans_wordEdge_word, key]
  intro h
  obtain ⟨name, hname⟩ := key.mp h
  exact hname.exists_cons

theorem tokens_call : callTokens.Tokens IsCallWord where
  spans_iff := by
    intro before m rest
    have hspans : callTokens.Spans before m rest ↔ functionHeader.Spans before m rest ∨
        anyCall.Spans before m rest ∨ (one LoopToken.punctuation).Spans before m rest := Iff.rfl
    rw [hspans, spans_functionHeader, spans_anyCall, spans_punctuation, ← or_assoc, ← and_or_left]
    rfl
  exists_cons := by
    rintro m (⟨name, h⟩ | ⟨name, h⟩)
    · exact h.exists_cons
    · exact h.exists_cons
  not_isMark := by
    rintro m (⟨name, h⟩ | ⟨name, h⟩)
    · exact h.not_isMark
    · exact h.not_isMark
  unique := by
    rintro m m' rest rest' (⟨name, h⟩ | ⟨name, h⟩) (⟨name', h'⟩ | ⟨name', h'⟩) heq
    · exact h.unique h' heq
    · exact absurd heq (h.ne_call h')
    · exact absurd heq.symm (h'.ne_call h)
    · exact (h.unique h' heq).2

theorem lexical_functionHeader : functionHeader.Lexical where
  ne_nil h := by
    obtain ⟨-, name, h⟩ := spans_functionHeader.mp h
    obtain ⟨c, s, rfl, -⟩ := h.exists_cons
    exact List.cons_ne_nil _ _
  unique h h' heq := by
    obtain ⟨-, name, h⟩ := spans_functionHeader.mp h
    obtain ⟨-, name', h'⟩ := spans_functionHeader.mp h'
    exact h.unique h' heq
  any_rest h rest' := spans_functionHeader.mpr (spans_functionHeader.mp h)

/-- No function header starts inside a word, or where no word starts. -/
theorem skips_functionHeader (h : AfterWord before ∨ ¬ AfterWord t.head?) :
    functionHeader.Skips before t := by
  rintro m rest rfl hspan
  obtain ⟨hbefore, name, hfunction⟩ := spans_functionHeader.mp hspan
  obtain ⟨c, s, rfl, hc⟩ := hfunction.exists_cons
  rcases h with h | h
  · exact hbefore h
  · exact h (by simpa [AfterWord] using hc)

theorem skips_functionHeader_call (h : IsCall name m) :
    functionHeader.Skips before (m ++ rest) := by
  intro n rest' hn hspan
  obtain ⟨-, name', hfunction⟩ := spans_functionHeader.mp hspan
  exact hfunction.ne_call h hn.symm

/-- No function header starts inside a call. -/
theorem skips_inside_call (h : IsCall name (u ++ v)) (hu : u ≠ []) (hv : v ≠ []) :
    functionHeader.Skips (lastOr before u) (v ++ rest) := by
  refine skips_functionHeader ((h.inside hu hv).imp_right fun hhead => ?_)
  rwa [List.head?_append_of_ne_nil _ hv]

/-- No function header starts inside a function header. -/
theorem skips_inside_function (h : IsFunction name (u ++ v)) (hu : u ≠ []) (hv : v ≠ []) :
    functionHeader.Skips (lastOr before u) (v ++ rest) := by
  obtain ⟨gap, call, -, hgap, hcall, heq⟩ := h
  rcases List.append_eq_append_iff.mp heq with ⟨s, hs, -⟩ | ⟨s, rfl, hs⟩
  · -- The front ends inside `fn`.
    refine skips_functionHeader (Or.inl (IsName.afterWord ⟨hu, fun c hc => isName_fn.2 c ?_⟩))
    rw [hs]
    exact List.mem_append_left _ hc
  rcases List.append_eq_append_iff.mp hs with ⟨r, rfl, rfl⟩ | ⟨r, rfl, rfl⟩
  · -- The front ends inside the call or right before it.
    rw [lastOr_append, lastOr_append]
    rcases r with _ | ⟨c, r⟩
    · exact skips_functionHeader_call hcall
    · exact skips_inside_call hcall (List.cons_ne_nil _ _) hv
  · -- The front ends among the blanks.
    rcases r with _ | ⟨c, r⟩
    · exact skips_functionHeader_call hcall
    · refine skips_functionHeader (Or.inr (not_afterWord_some ?_))
      exact CodePoint.isWord_eq_false_of_isBlank (hgap c (by simp))

theorem within_callTokens : functionHeader.Within callTokens where
  sub h := Or.inl h
  inside h hu hv := by
    rcases tokens_call.word_of_append h hu hv with ⟨name, h⟩ | ⟨name, h⟩
    · exact skips_inside_function h hu hv
    · exact skips_inside_call h hu hv

end Pattern

namespace CallToken

open Pattern

theorem firstWord_append (h : IsCall name m) : firstWord (m ++ rest) = name := by
  obtain ⟨⟨-, hname⟩, gap, hgap, rfl⟩ := h
  obtain ⟨x, s, hs⟩ := List.exists_cons_of_ne_nil (List.concat_ne_nil ('(' : CodePoint) gap)
  have hx := isWord_of_mem_gap hgap x (hs ▸ List.mem_cons_self)
  rw [firstWord, List.append_assoc, hs, List.takeWhile_append_of_pos hname, List.cons_append,
    List.takeWhile_cons_of_neg (by simp [hx]), List.append_nil]

theorem firstWord_afterFirstWord_append (h : IsFunction name m) :
    firstWord (afterFirstWord (m ++ rest)) = name := by
  obtain ⟨gap, call, hne, hgap, hcall, rfl⟩ := h
  obtain ⟨x, s, rfl⟩ := List.exists_cons_of_ne_nil hne
  obtain ⟨d, r, rfl, hd⟩ := hcall.exists_cons
  have hx : x.isWord = false := CodePoint.isWord_eq_false_of_isBlank (hgap x List.mem_cons_self)
  have hfn : (ofString "fn" ++ ((x :: s) ++ d :: r) ++ rest).dropWhile CodePoint.isWord =
      (x :: s) ++ ((d :: r) ++ rest) := by
    rw [List.append_assoc, List.dropWhile_append_of_pos isName_fn.2, List.append_assoc,
      List.cons_append, List.dropWhile_cons_of_neg (by simp [hx])]
  rw [afterFirstWord, hfn, List.dropWhile_append_of_pos hgap, List.cons_append,
    List.dropWhile_cons_of_neg (by simp [isBlank_of_isWord hd]), ← List.cons_append,
    firstWord_append hcall]

theorem ofCursor_word {c : Cursor} (hc : c.rest = m ++ rest)
    (hm : ∃ x s, m = x :: s ∧ x.isWord = true) : ofCursor c =
      if (functionHeader.end? c).isSome then function (firstWord (afterFirstWord (m ++ rest)))
      else call (firstWord (m ++ rest)) := by
  obtain ⟨x, s, rfl, hx⟩ := hm
  obtain ⟨hopen, hclose, hend⟩ := ne_of_isWord hx
  simp [ofCursor, hc, hopen, hclose, hend]

theorem ofCursor_function {c : Cursor} (hc : c.rest = m ++ rest) (hbefore : ¬ AfterWord c.before)
    (h : IsFunction name m) : ofCursor c = function name := by
  have hend : (functionHeader.end? c).isSome := by
    rw [Option.isSome_iff_ne_none, Ne, end?_eq_none_iff]
    intro hskip
    exact hskip m rest hc (spans_functionHeader.mpr ⟨hbefore, name, h⟩)
  rw [ofCursor_word hc h.exists_cons, if_pos hend, firstWord_afterFirstWord_append h]

theorem ofCursor_call {c : Cursor} (hc : c.rest = m ++ rest) (h : IsCall name m) :
    ofCursor c = call name := by
  have hend : functionHeader.end? c = none := by
    rw [end?_eq_none_iff]
    intro n rest' hn
    exact skips_functionHeader_call h n rest' (hc ▸ hn)
  rw [ofCursor_word hc h.exists_cons, hend, firstWord_append h]
  rfl

def ofMatch (m : Text) : CallToken := ofCursor ⟨0, none, m⟩

theorem ofMatch_function (h : IsFunction name m) : ofMatch m = function name :=
  ofCursor_function (List.append_nil m).symm (by simp [AfterWord]) h

theorem ofMatch_call (h : IsCall name m) : ofMatch m = call name :=
  ofCursor_call (List.append_nil m).symm h

theorem ofCursor_eq_ofMatch {c : Cursor} (hc : c.rest = m ++ rest)
    (h : callTokens.Spans c.before m rest) : ofCursor c = ofMatch m := by
  rcases tokens_call.spans_iff.mp h with ⟨hbefore, ⟨name, h⟩ | ⟨name, h⟩⟩ | ⟨x, hx, rfl⟩
  · rw [ofCursor_function hc hbefore h, ofMatch_function h]
  · rw [ofCursor_call hc h, ofMatch_call h]
  · rcases hx.cases with rfl | rfl | rfl
    · simp [ofMatch, ofCursor, hc]
    · simp [ofMatch, ofCursor, hc]
    · simp [ofMatch, ofCursor, hc]

/-- The tokens of a text are read off the matches that a scan finds. -/
theorem scan_eq {found : List Text} (h : Scans callTokens none t found last []) :
    scan t = found.map ofMatch :=
  h.map_starts tokens_call.lexical ofCursor_eq_ofMatch

end CallToken

end ZigAdvisor
