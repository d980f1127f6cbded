import ZigAdvisor.Proofs.Flow.LoopLines
import ZigAdvisor.Proofs.Flow.Tokens

/-!
# Scanning for loops

A loop header is a call of a keyword, and the tokens of a text are its loop headers, braces and
semicolons, found by one scan (`LoopToken.scan_eq`). The tokens for fewer keywords are the tokens
for all keywords without the headers of the other ones, and the headers alone are found where the
scan for tokens finds them.

A text gives its tokens whatever follows, as far as no header reaches over its end
(`LoopToken.Reads`). Text without keywords has only its braces and semicolons, a header by itself is
one token, and what neighbouring pieces give is put together by `Reads.append`.
-/

namespace ZigAdvisor

open Text

variable {before last : Option CodePoint} {m n t u v rest : Text} {keywords : List String}

def IsHeader (keywords : List String) (m : Text) : Prop :=
  ∃ k ∈ keywords, IsCall (ofString k) m

namespace IsHeader

theorem exists_cons (h : IsHeader keywords m) : ∃ c s, m = c :: s ∧ c.isWord = true := by
  obtain ⟨k, -, hk⟩ := h
  exact hk.exists_cons

theorem unique {m' rest' : Text} (h : IsHeader keywords m) (h' : IsHeader keywords m')
    (heq : m ++ rest = m' ++ rest') : m = m' := by
  obtain ⟨k, -, hk⟩ := h
  obtain ⟨k', -, hk'⟩ := h'
  exact (hk.unique hk' heq).2

theorem not_isMark (h : IsHeader keywords m) : ∀ c ∈ m, ¬ IsMark c := by
  obtain ⟨k, -, hk⟩ := h
  exact hk.not_isMark

end IsHeader

namespace Pattern

def loopTokens (keywords : List String) : Pattern :=
  .alt (loopHeader keywords) (.one LoopToken.punctuation)

theorem spans_loopHeader (hk : AreWords keywords) :
    (loopHeader keywords).Spans before m rest ↔ ¬ AfterWord before ∧ IsHeader keywords m := by
  have key : (seq (anyOf (keywords.map fun k => lit (ofString k)))
      (seq blanks (lit "("))).Spans before m rest ↔ IsHeader keywords m := by
    constructor
    · rintro ⟨x, y, rfl, hx, hy⟩
      obtain ⟨k, hmem, rfl⟩ := spans_anyOf.mp hx
      obtain ⟨blank, hblank, rfl⟩ := spans_opening.mp hy
      exact ⟨k, hmem, hk k hmem, blank, hblank, rfl⟩
    · rintro ⟨k, hmem, -, blank, hblank, rfl⟩
      exact ⟨_, _, rfl, spans_anyOf.mpr ⟨k, hmem, rfl⟩, spans_opening.mpr ⟨blank, hblank, rfl⟩⟩
  rw [show loopHeader keywords = seq wordEdge (seq (anyOf (keywords.map fun k => lit (ofString k)))
    (seq blanks (lit "("))) from rfl, spans_wordEdge_word fun h => (key.mp h).exists_cons, key]

theorem spans_loopTokens (hk : AreWords keywords) :
    (loopTokens keywords).Spans before m rest ↔
      (¬ AfterWord before ∧ IsHeader keywords m) ∨ ∃ c, IsMark c ∧ m = [c] :=
  or_congr (spans_loopHeader hk) spans_punctuation

theorem lexical_loopHeader (hk : AreWords keywords) : (loopHeader keywords).Lexical where
  ne_nil h := by
    obtain ⟨c, s, rfl, -⟩ := ((spans_loopHeader hk).mp h).2.exists_cons
    exact List.cons_ne_nil _ _
  unique h h' heq := ((spans_loopHeader hk).mp h).2.unique ((spans_loopHeader hk).mp h').2 heq
  any_rest h rest' := (spans_loopHeader hk).mpr ((spans_loopHeader hk).mp h)

theorem tokens_loop (hk : AreWords keywords) :
    (loopTokens keywords).Tokens (IsHeader keywords) where
  spans_iff := spans_loopTokens hk
  exists_cons := IsHeader.exists_cons
  not_isMark := IsHeader.not_isMark
  unique := IsHeader.unique

/-- No header starts inside a header. -/
theorem skips_inside_header {others : List String} (hk : AreWords keywords)
    (h : IsHeader others (u ++ v)) (hu : u ≠ []) (hv : v ≠ []) :
    (loopHeader keywords).Skips (lastOr before u) (v ++ rest) := by
  intro n rest' hn hspan
  obtain ⟨hbefore, hheader⟩ := (spans_loopHeader hk).mp hspan
  obtain ⟨k, -, hcall⟩ := h
  rcases hcall.inside hu hv with hafter | hhead
  · exact hbefore hafter
  · obtain ⟨c, s, rfl, hc⟩ := hheader.exists_cons
    obtain ⟨x, v, rfl⟩ := List.exists_cons_of_ne_nil hv
    obtain ⟨rfl, -⟩ := List.cons.inj hn
    simp [AfterWord, hc] at hhead

/-- No token starts inside a header. -/
theorem skips_inside {others : List String} (hk : AreWords keywords)
    (h : IsHeader others (u ++ v)) (hu : u ≠ []) (hv : v ≠ []) :
    (loopTokens keywords).Skips (lastOr before u) (v ++ rest) := by
  rintro n rest' hn (hspan | hspan)
  · exact skips_inside_header hk h hu hv n rest' hn hspan
  · obtain ⟨c, hc, rfl⟩ := spans_punctuation.mp hspan
    obtain ⟨x, v, rfl⟩ := List.exists_cons_of_ne_nil hv
    obtain ⟨rfl, -⟩ := List.cons.inj hn
    exact h.not_isMark x (by simp) hc

theorem within_fewer {few : List String} (hk : AreWords keywords) (hfew : few ⊆ keywords) :
    (loopTokens few).Within (loopTokens keywords) where
  sub hspan := by
    rw [spans_loopTokens fun k hmem => hk k (hfew hmem)] at hspan
    rw [spans_loopTokens hk]
    exact hspan.imp_left fun ⟨hbefore, k, hmem, hcall⟩ => ⟨hbefore, k, hfew hmem, hcall⟩
  inside hspan hu hv := skips_inside (fun k hmem => hk k (hfew hmem))
    ((tokens_loop hk).word_of_append hspan hu hv) hu hv

theorem within_loopTokens (hk : AreWords keywords) :
    (loopHeader keywords).Within (loopTokens keywords) where
  sub hspan := Or.inl hspan
  inside hspan hu hv := skips_inside_header hk ((tokens_loop hk).word_of_append hspan hu hv) hu hv

open scoped Classical in
/-- A scan for fewer keywords finds the same tokens without the headers of the others. -/
theorem Scans.fewer {few : List String} {found : List Text} (hk : AreWords keywords)
    (hfew : few ⊆ keywords) (h : Scans (loopTokens keywords) before t found last rest) :
    Scans (loopTokens few) before t
      (found.filter fun m => IsHeader few m ∨ ∃ c, IsMark c ∧ m = [c]) last rest := by
  have hk' : AreWords few := fun k hmem => hk k (hfew hmem)
  refine h.filter (tokens_loop hk).lexical (tokens_loop hk').lexical (within_fewer hk hfew) ?_
  intro before m rest hspan
  rw [decide_eq_true_eq, spans_loopTokens hk']
  rcases (spans_loopTokens hk).mp hspan with ⟨hbefore, -⟩ | hmark
  · exact or_congr_left (and_iff_right hbefore).symm
  · exact iff_of_true (Or.inr hmark) (Or.inr hmark)

open scoped Classical in
/-- A scan for headers alone finds the headers among the tokens. -/
theorem Scans.headers {found : List Text} (hk : AreWords keywords)
    (h : Scans (loopTokens keywords) before t found last rest) :
    Scans (loopHeader keywords) before t (found.filter fun m => IsHeader keywords m) last rest := by
  refine h.filter (tokens_loop hk).lexical (lexical_loopHeader hk) (within_loopTokens hk) ?_
  intro before m rest hspan
  rw [decide_eq_true_eq, spans_loopHeader hk]
  rcases (spans_loopTokens hk).mp hspan with ⟨hbefore, -⟩ | ⟨c, hc, rfl⟩
  · exact (and_iff_right hbefore).symm
  · have hno (h : IsHeader keywords [c]) : False := h.not_isMark c List.mem_cons_self hc
    exact iff_of_false hno fun hheader => hno hheader.2

end Pattern

namespace LoopToken

open Pattern

theorem atFront_append (h : m ≠ []) : atFront (m ++ rest) = atFront m := by
  obtain ⟨c, m, rfl⟩ := List.exists_cons_of_ne_nil h
  rfl

theorem atFront_header (h : IsHeader keywords m) : atFront m = header := by
  obtain ⟨c, s, rfl, hc⟩ := h.exists_cons
  obtain ⟨hopen, hclose, hend⟩ := ne_of_isWord hc
  simp [atFront, hopen, hclose, hend]

theorem atFront_mark {c : CodePoint} (h : IsMark c) : atFront [c] ≠ header := by
  have : ∀ c ∈ ofString "\x7b\x7d;", atFront [c] ≠ header := by decide
  exact this c h

/-- The tokens of a text are read off the matches that a scan finds. -/
theorem scan_eq {found : List Text} (hk : AreWords keywords)
    (h : Scans (loopTokens keywords) none t found last []) :
    scan (loopHeader keywords) t = found.map atFront := by
  refine h.map_starts (tokens_loop hk).lexical fun {c m rest} hrest hspan => ?_
  rw [hrest, atFront_append ((tokens_loop hk).lexical.ne_nil hspan)]

theorem exists_scans (hk : AreWords keywords) (t : Text) :
    ∃ found, Scans (loopTokens keywords) none t found (lastOr none t) [] :=
  (tokens_loop hk).lexical.exists_scans none t

theorem atFront_eq_header_iff {found : List Text} (hk : AreWords keywords)
    (h : Scans (loopTokens keywords) before t found last rest) :
    ∀ m ∈ found, (atFront m = header ↔ IsHeader keywords m) := by
  intro m hm
  obtain ⟨before, rest, hspan⟩ := h.exists_spans m hm
  rcases (spans_loopTokens hk).mp hspan with ⟨-, hheader⟩ | ⟨c, hc, rfl⟩
  · exact iff_of_true (atFront_header hheader) hheader
  · exact iff_of_false (atFront_mark hc) fun hheader => atFront_mark hc (atFront_header hheader)

/-- As many headers are found among the tokens as by themselves. -/
theorem count_header_scan (hk : AreWords keywords) (t : Text) :
    (scan (loopHeader keywords) t).count header = (loopHeader keywords).count t := by
  classical
  obtain ⟨found, h⟩ := exists_scans hk t
  rw [scan_eq hk h, (h.headers hk).count_eq (lexical_loopHeader hk), List.count, List.countP_map,
    ← List.countP_eq_length_filter]
  refine List.countP_congr fun m hm => ?_
  simpa using atFront_eq_header_iff hk h m hm

end LoopToken

/-! ## Reading piece by piece -/

namespace Pattern

theorem skips_loopTokens (hk : AreWords keywords) {c : CodePoint} (hc : ¬ IsMark c)
    (h : (loopHeader keywords).Skips before (c :: m)) :
    (loopTokens keywords).Skips before (c :: m) := by
  intro n rest' hn hspan
  rcases (spans_loopTokens hk).mp hspan with hheader | ⟨x, hx, rfl⟩
  · exact h n rest' hn ((spans_loopHeader hk).mpr hheader)
  · obtain ⟨rfl, -⟩ := List.cons.inj hn
    exact hc hx

/-- Where no header starts, braces and semicolons are all that is found. -/
theorem Scans.marks (hk : AreWords keywords)
    (h : ∀ u c v, m = u ++ c :: v →
      (loopHeader keywords).Skips (lastOr before u) (c :: (v ++ rest))) :
    Scans (loopTokens keywords) before (m ++ rest) ((m.filter IsMark).map fun c => [c])
      (lastOr before m) rest := by
  induction m generalizing before with
  | nil => exact .done
  | cons c m ih =>
    have hothers := @ih (some c) fun u x v hm => h (c :: u) x v (by rw [hm]; rfl)
    by_cases hc : IsMark c
    · rw [List.filter_cons_of_pos (by simpa using hc)]
      exact .found (m := [c]) ((spans_loopTokens hk).mpr (Or.inr ⟨c, hc, rfl⟩)) hothers
    · rw [List.filter_cons_of_neg (by simpa using hc)]
      exact .passed (skips_loopTokens hk hc (h [] c m rfl)) hothers

end Pattern

namespace LoopToken

open Pattern

/-- The text `m` gives the tokens `tokens` between `before` and `rest`. -/
def Reads (keywords : List String) (before : Option CodePoint) (m : Text)
    (tokens : List LoopToken) (rest : Text) : Prop :=
  ∃ found, Scans (loopTokens keywords) before (m ++ rest) found (lastOr before m) rest ∧
    found.map atFront = tokens

def marks (m : Text) : List LoopToken := (m.filter IsMark).map fun c => atFront [c]

variable {xs ys : List LoopToken}

theorem Reads.nil : Reads keywords before [] [] rest := ⟨[], .done, rfl⟩

theorem Reads.append (first : Reads keywords before m xs (n ++ rest))
    (second : Reads keywords (lastOr before m) n ys rest) :
    Reads keywords before (m ++ n) (xs ++ ys) rest := by
  obtain ⟨found, hfound, rfl⟩ := first
  obtain ⟨found', hfound', rfl⟩ := second
  refine ⟨found ++ found', ?_, List.map_append⟩
  rw [List.append_assoc, lastOr_append]
  exact hfound.trans hfound'

theorem Reads.of_skips (hk : AreWords keywords)
    (h : ∀ u c v, m = u ++ c :: v →
      (loopHeader keywords).Skips (lastOr before u) (c :: (v ++ rest))) :
    Reads keywords before m (marks m) rest :=
  ⟨_, .marks hk h, by simp [marks]⟩

/-- Text without words has only its marks. -/
theorem Reads.wordless (hk : AreWords keywords) (h : ∀ c ∈ m, c.isWord = false) :
    Reads keywords before m (marks m) rest := by
  refine .of_skips hk fun u c v hm n rest' hn hspan => ?_
  obtain ⟨x, s, rfl, hx⟩ := ((spans_loopHeader hk).mp hspan).2.exists_cons
  obtain ⟨rfl, -⟩ := List.cons.inj hn
  have hc := h c (by rw [hm]; simp)
  simp [hx] at hc

/-- Text without keywords has only its marks, if it is not in the middle of a word. -/
theorem Reads.plain (hk : AreWords keywords) (hwords : ∀ k ∈ keywords, ¬ HasWord (ofString k) m)
    (hrest : ¬ AfterWord rest.head?) : Reads keywords before m (marks m) rest := by
  refine .of_skips hk fun u c v hm n rest' hn hspan => ?_
  obtain ⟨hafter, k, hmem, hcall⟩ := (spans_loopHeader hk).mp hspan
  obtain ⟨b, hb, hafter'⟩ := hcall.name_of_append (v := c :: v) hn (List.cons_ne_nil _ _) hrest
  refine hwords k hmem ⟨u, b, by rw [hm, hb], ?_, hafter'⟩
  exact fun h => hafter h.lastOr_of_none

theorem Reads.header (hk : AreWords keywords) (h : IsHeader keywords m)
    (hbefore : ¬ AfterWord before) : Reads keywords before m [header] rest :=
  ⟨[m], .found ((spans_loopTokens hk).mpr (Or.inl ⟨hbefore, h⟩)) .done,
    by rw [List.map_singleton, atFront_header h]⟩

theorem Reads.scan (hk : AreWords keywords) (h : Reads keywords none m xs []) :
    LoopToken.scan (loopHeader keywords) m = xs := by
  obtain ⟨found, hfound, rfl⟩ := h
  rw [List.append_nil] at hfound
  exact scan_eq hk hfound

end LoopToken

end ZigAdvisor
