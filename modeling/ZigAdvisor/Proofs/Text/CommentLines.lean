import Mathlib.Data.List.TakeWhile
import ZigAdvisor.Proofs.Pattern.Counting
import ZigAdvisor.Proofs.Pattern.Scan
import ZigAdvisor.Proofs.Text.Lines
import ZigAdvisor.Proofs.Text.Stream
import ZigAdvisor.Review.FileMetrics

/-!
# Comment lines

A search for comments starts at line feeds only and runs over blank lines, while the lines of a
file end at every line boundary. The search finds one match for each piece between line feeds that
is a comment (`count_commentStart`), and each such piece ends with a line that is a comment
(`commentLines_pieces_le`). So a file has at least as many comment lines as the search finds.
-/

namespace ZigAdvisor

open Text

theorem CodePoint.isBlank_of_isLineBreak {c : CodePoint} (h : c.isLineBreak = true) :
    c.isBlank = true := by
  simp only [isLineBreak, Bool.or_eq_true, Bool.and_eq_true, decide_eq_true_eq, beq_iff_eq] at h
  simp only [isBlank, blankTable, Ranges.contains]
  grind

namespace Text

variable {c : CodePoint} {t line rest : Text} {before : Option CodePoint}

/-- Whether nothing but blanks stands before a first `//`. -/
def isCommentLine (line : Text) : Bool := startsWith line.trimLeft "//"

def commentLines (lines : List Text) : ℕ := lines.countP isCommentLine

theorem isBlank_slash : CodePoint.isBlank ('/' : CodePoint) = false := by decide

theorem isCommentLine_of_isBlank (hc : c.isBlank = true) :
    isCommentLine (c :: line) = isCommentLine line := by
  rw [isCommentLine, trimLeft, List.dropWhile_cons_of_pos hc]
  rfl

theorem isCommentLine_cons (hc : c.isBlank = false) : isCommentLine (c :: line) = true ↔
    c = '/' ∧ line.head? = some ('/' : CodePoint) := by
  have hslashes : ofString "//" = [('/' : CodePoint), ('/' : CodePoint)] := rfl
  rw [isCommentLine, trimLeft, List.dropWhile_cons_of_neg (by simp [hc]), startsWith, hslashes]
  cases line with
  | nil => simp [List.isPrefixOf]
  | cons d line => simp [List.isPrefixOf, eq_comm (a := c), eq_comm (a := d)]

theorem isCommentLine_iff : isCommentLine line = true ↔
    ∃ blank rest : Text, (∀ c ∈ blank, c.isBlank = true) ∧
      line = blank ++ (ofString "//" ++ rest) := by
  rw [isCommentLine, startsWith, List.isPrefixOf_iff_prefix]
  constructor
  · rintro ⟨rest, hrest⟩
    refine ⟨line.takeWhile CodePoint.isBlank, rest, fun c hc => List.mem_takeWhile_imp hc, ?_⟩
    rw [hrest, trimLeft, List.takeWhile_append_dropWhile]
  · rintro ⟨blank, rest, hblank, rfl⟩
    rw [trimLeft, List.dropWhile_append_of_pos hblank]
    exact ⟨rest, rfl⟩

@[simp] theorem commentLines_nil_cons (lines : List Text) :
    commentLines ([] :: lines) = commentLines lines := by
  rw [commentLines, List.countP_cons_of_neg (by decide)]
  rfl

/-- Blanks in front of a first line do not count. -/
theorem commentLines_blank (hc : c.isBlank = true) (lines : List Text) :
    commentLines ((c :: lines.headD []) :: lines.tail) = commentLines lines := by
  rw [commentLines, List.countP_cons, isCommentLine_of_isBlank hc]
  cases lines with
  | nil => rfl
  | cons line others => rw [commentLines, List.countP_cons, List.headD_cons, List.tail_cons]

/-! ## Pieces between line feeds -/

/-- The comment lines among the pieces of a text that goes on behind `before`: the first piece
counts if it begins there. -/
def commentPieces (before : Option CodePoint) (t : Text) : ℕ :=
  if before.all (· == ('\n' : CodePoint)) then commentLines (splitAtNewlines t)
  else commentLines (splitAtNewlines t).tail

theorem commentPieces_feed :
    commentPieces before (('\n' : CodePoint) :: t) = commentPieces (some '\n') t := by
  rw [commentPieces, splitAtNewlines, pieces_cons_mark, commentLines_nil_cons, List.tail_cons,
    ite_self]
  rfl

theorem splitAtNewlines_cons (hc : c ≠ '\n') : splitAtNewlines (c :: t) =
    (c :: (splitAtNewlines t).headD []) :: (splitAtNewlines t).tail :=
  pieces_cons hc

theorem headD_splitAtNewlines_prefix (t : Text) : (splitAtNewlines t).headD [] <+: t := by
  induction t with
  | nil => exact List.prefix_rfl
  | cons c t ih =>
    by_cases hc : c = '\n'
    · rw [hc, splitAtNewlines, pieces_cons_mark]
      exact List.nil_prefix
    · rw [splitAtNewlines_cons hc, List.headD_cons]
      exact List.cons_prefix_cons.mpr ⟨rfl, ih⟩

/-- No comment begins in the middle of a line. -/
theorem commentPieces_inside (hbefore : before.all (· == ('\n' : CodePoint)) = false) :
    commentPieces before (c :: t) = commentPieces (some c) t := by
  by_cases hc : c = '\n'
  · rw [hc, commentPieces_feed]
  · rw [commentPieces, if_neg (by simp [hbefore]), splitAtNewlines_cons hc, List.tail_cons,
      commentPieces, if_neg (by simpa using hc)]

/-- Blanks in front of a line do not count. -/
theorem commentPieces_blank (hbefore : before.all (· == ('\n' : CodePoint)) = true)
    (hc : c.isBlank = true) : commentPieces before (c :: t) = commentPieces none t := by
  by_cases hfeed : c = '\n'
  · rw [hfeed, commentPieces_feed]
    rfl
  · rw [commentPieces, if_pos hbefore, splitAtNewlines_cons hfeed, commentLines_blank hc]
    rfl

theorem commentPieces_blanks {blank : Text} (hblank : ∀ c ∈ blank, c.isBlank = true)
    (hbefore : before.all (· == ('\n' : CodePoint)) = true) :
    commentPieces before (blank ++ t) = commentPieces none t := by
  induction blank generalizing before with
  | nil => rw [List.nil_append, commentPieces, if_pos hbefore, commentPieces, if_pos (by rfl)]
  | cons c blank ih =>
    rw [List.forall_mem_cons] at hblank
    rw [List.cons_append, commentPieces_blank hbefore hblank.1]
    exact ih hblank.2 rfl

theorem commentPieces_comment :
    commentPieces none (ofString "//" ++ t) = commentPieces (some '/') t + 1 := by
  have hfeed : ('/' : CodePoint) ≠ '\n' := by decide
  have hslashes : ofString "//" = [('/' : CodePoint), ('/' : CodePoint)] := rfl
  have hcomment : isCommentLine ('/' :: '/' :: (splitAtNewlines t).headD []) = true :=
    (isCommentLine_cons isBlank_slash).mpr ⟨rfl, rfl⟩
  rw [commentPieces, if_pos (by rfl), hslashes, List.cons_append, List.cons_append,
    List.nil_append, splitAtNewlines_cons hfeed, splitAtNewlines_cons hfeed, List.headD_cons,
    List.tail_cons, commentLines, List.countP_cons_of_pos hcomment, commentPieces,
    if_neg (by decide)]
  rfl

/-- Where no comment begins nothing counts. -/
theorem commentPieces_other (h : isCommentLine (c :: t) = false) :
    commentPieces before (c :: t) = commentPieces (some c) t := by
  cases hbefore : before.all (· == ('\n' : CodePoint)) with
  | false => exact commentPieces_inside hbefore
  | true =>
    by_cases hc : c = '\n'
    · rw [hc, commentPieces_feed]
    · have hpiece : isCommentLine (c :: (splitAtNewlines t).headD []) = false := by
        rw [← Bool.not_eq_true, isCommentLine_iff] at h ⊢
        rintro ⟨blank, rest, hblank, hline⟩
        obtain ⟨behind, ht⟩ := headD_splitAtNewlines_prefix t
        refine h ⟨blank, rest ++ behind, hblank, ?_⟩
        rw [← ht, ← List.cons_append, hline, List.append_assoc, List.append_assoc]
      rw [commentPieces, if_pos hbefore, splitAtNewlines_cons hc, commentLines,
        List.countP_cons_of_neg (Bool.eq_false_iff.mp hpiece), commentPieces, if_neg (by simpa using hc)]
      rfl

/-! ## Lines -/

theorem head?_headD_lines :
    ((lines t).headD []).head? = some ('/' : CodePoint) ↔ t.head? = some ('/' : CodePoint) := by
  cases t with
  | nil => rfl
  | cons c t =>
    cases hc : c.isLineBreak with
    | false => rw [lines_cons hc, List.headD_cons, List.head?_cons, List.head?_cons]
    | true =>
      have hslash : c ≠ '/' := by
        rintro rfl
        exact absurd hc (by decide)
      obtain ⟨others, hothers⟩ := exists_lines_break (t := t) hc
      rw [hothers]
      simp [hslash]

theorem head?_headD_splitAtNewlines : ((splitAtNewlines t).headD []).head? =
    some ('/' : CodePoint) ↔ t.head? = some ('/' : CodePoint) := by
  cases t with
  | nil => rfl
  | cons c t =>
    by_cases hc : c = '\n'
    · have hslash : ('\n' : CodePoint) ≠ '/' := by decide
      rw [hc, splitAtNewlines, pieces_cons_mark]
      simp [hslash]
    · rw [splitAtNewlines_cons hc, List.headD_cons, List.head?_cons, List.head?_cons]

/-- Each piece that is a comment ends with a line that is one, and so do all pieces but the first
with lines behind the first. -/
theorem commentLines_pieces_le (t : Text) :
    commentLines (splitAtNewlines t) ≤ commentLines (lines t) ∧
      commentLines (splitAtNewlines t).tail ≤ commentLines (lines t).tail := by
  induction t with
  | nil => exact ⟨Nat.zero_le _, le_rfl⟩
  | cons c t ih =>
    by_cases hfeed : c = '\n'
    · rw [hfeed, lines_feed, splitAtNewlines, pieces_cons_mark]
      simp only [commentLines_nil_cons, List.tail_cons]
      exact ⟨ih.1, ih.1⟩
    · rw [splitAtNewlines_cons hfeed, List.tail_cons]
      cases hbreak : c.isLineBreak with
      | true =>
        -- The piece goes on behind the boundary and counts there.
        rw [commentLines_blank (CodePoint.isBlank_of_isLineBreak hbreak)]
        by_cases hreturn : c = '\r' ∧ t.head? = some ('\n' : CodePoint)
        · rw [hreturn.1, lines_return hreturn.2]
          exact ih
        · rw [lines_break hreturn hbreak, commentLines_nil_cons, List.tail_cons]
          have htail : commentLines (lines t).tail ≤ commentLines (lines t) :=
            (List.tail_sublist _).countP_le
          exact ⟨ih.1, ih.2.trans htail⟩
      | false =>
        rw [lines_cons hbreak, List.tail_cons]
        refine ⟨?_, ih.2⟩
        cases hblank : c.isBlank with
        | true =>
          rw [commentLines_blank hblank, commentLines_blank hblank]
          exact ih.1
        | false =>
          have hfirst : isCommentLine (c :: (splitAtNewlines t).headD []) =
              isCommentLine (c :: (lines t).headD []) := by
            rw [Bool.eq_iff_iff, isCommentLine_cons hblank, isCommentLine_cons hblank,
              head?_headD_lines, head?_headD_splitAtNewlines]
          rw [commentLines, commentLines, List.countP_cons, List.countP_cons, hfirst]
          exact Nat.add_le_add_right ih.2 _

/-- If line feeds are the only boundaries, both ways to cut a text agree but for a last piece that
is empty. -/
theorem lines_of_feeds (h : ∀ c ∈ t, c.isLineBreak = true → c = '\n') :
    splitAtNewlines t = lines t ∨ splitAtNewlines t = lines t ++ [[]] := by
  induction t with
  | nil => exact Or.inr rfl
  | cons c t ih =>
    rw [List.forall_mem_cons] at h
    have ih := ih h.2
    by_cases hfeed : c = '\n'
    · rw [hfeed, lines_feed, splitAtNewlines, pieces_cons_mark, List.cons_append]
      exact ih.imp (congrArg _) (congrArg _)
    · have hbreak : c.isLineBreak = false := by
        rw [← Bool.not_eq_true]
        exact fun hc => hfeed (h.1 hc)
      rw [splitAtNewlines_cons hfeed, lines_cons hbreak]
      rcases ih with ih | ih
      · exact Or.inl (by rw [ih])
      · cases hlines : lines t with
        | nil => exact Or.inl (by rw [ih, hlines]; rfl)
        | cons line others => exact Or.inr (by rw [ih, hlines]; rfl)

theorem commentLines_of_feeds (h : ∀ c ∈ t, c.isLineBreak = true → c = '\n') :
    commentLines (splitAtNewlines t) = commentLines (lines t) := by
  rcases lines_of_feeds h with ht | ht
  · rw [ht]
  · rw [ht, commentLines, List.countP_append]
    rfl

end Text

/-! ## The search for comments -/

namespace Pattern

def commentStart : Pattern := inOrder [lineStart, blanks, "//"]

variable {before : Option CodePoint} {m rest : Text}

theorem spans_commentStart : commentStart.Spans before m rest ↔
    before.all (· == ('\n' : CodePoint)) = true ∧
      ∃ blank : Text, (∀ c ∈ blank, c.isBlank = true) ∧ m = blank ++ ofString "//" := by
  constructor
  · rintro ⟨_, _, rfl, ⟨rfl, hbefore⟩, blank, _, rfl, hblank, rfl⟩
    exact ⟨hbefore, blank, spans_blanks.mp hblank, rfl⟩
  · rintro ⟨hbefore, blank, hblank, rfl⟩
    exact ⟨[], _, rfl, ⟨rfl, hbefore⟩, blank, _, rfl, spans_blanks.mpr hblank, rfl⟩

/-- At the start of a line where the search finds nothing stands no comment. -/
theorem isCommentLine_of_end? {offset : ℕ} {t : Text}
    (h : commentStart.end? ⟨offset, before, t⟩ = none)
    (hbefore : before.all (· == ('\n' : CodePoint)) = true) : isCommentLine t = false := by
  rw [end?_eq_none_iff] at h
  rw [← Bool.not_eq_true, isCommentLine_iff]
  rintro ⟨blank, rest, hblank, rfl⟩
  apply h (blank ++ ofString "//") rest
  · rw [List.append_assoc]
  · exact spans_commentStart.mpr ⟨hbefore, blank, hblank, rfl⟩

/-- The search counts a piece where its comment begins. -/
theorem length_startsFrom_commentStart (offset : ℕ) (before : Option CodePoint) (t : Text) :
    (commentStart.startsFrom 0 offset before t).length = commentPieces before t := by
  -- On the length, since a match may run over several blank lines.
  induction hn : t.length using Nat.strong_induction_on generalizing offset before t with
  | _ n ih =>
    subst hn
    cases t with
    | nil =>
      rw [startsFrom, commentPieces]
      split_ifs <;> rfl
    | cons c t =>
      cases hend : commentStart.end? ⟨offset, before, c :: t⟩ with
      | some d =>
        obtain ⟨m, ht, hspan, hstarts⟩ := exists_startsFrom_eq hend
          (fun h => ne_nil_of_consumes rfl h rfl)
        obtain ⟨hbefore, blank, hblank, rfl⟩ := spans_commentStart.mp hspan
        have hlen : d.rest.length < (c :: t).length := by
          rw [ht, List.length_append, List.length_append]
          have : 0 < (ofString "//").length := by decide
          omega
        have hlast : lastOr before (blank ++ ofString "//") = some ('/' : CodePoint) := by
          rw [lastOr_append]
          rfl
        rw [hstarts, List.length_cons, ih _ hlen _ _ _ rfl, hlast, ht, List.append_assoc,
          commentPieces_blanks hblank hbefore, commentPieces_comment]
      | none =>
        rw [startsFrom, hend]
        simp only
        rw [ih t.length (by simp) _ _ _ rfl]
        cases hbefore : before.all (· == ('\n' : CodePoint)) with
        | false => rw [commentPieces_inside hbefore]
        | true => rw [commentPieces_other (isCommentLine_of_end? hend hbefore)]

theorem count_commentStart (t : Text) :
    commentStart.count t = commentLines (splitAtNewlines t) :=
  length_startsFrom_commentStart 0 none t

end Pattern

end ZigAdvisor
