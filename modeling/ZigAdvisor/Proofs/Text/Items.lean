import ZigAdvisor.Proofs.Number.Digits
import ZigAdvisor.Proofs.Text.Stream
import ZigAdvisor.Proofs.Text.Surrogates
import ZigAdvisor.Proofs.Text.Word

/-!
# Items and framed texts

What is printed is put together from items that stand on one line each and from texts that begin
and end with something other than a blank. Texts of both kinds can be told apart again in what they
are put together to: an item is a line of its own, and trimming does not touch a framed text.
-/

namespace ZigAdvisor

theorem CodePoint.isBlank_of_isAsciiDigit {c : CodePoint} (h : c.isAsciiDigit = true) :
    c.isBlank = false := by
  rw [isAsciiDigit_iff] at h
  simp only [isBlank, Text.blankTable, Ranges.contains]
  grind

namespace Text

variable {t u s : Text} {ts items : List Text} {separator : Text}

def IsLine (t : Text) : Prop := ∀ c ∈ t, c ≠ ('\n' : CodePoint)

/-- Whether a text can be an item of a list: it stands on one line and does not end with a blank. -/
structure IsItem (t : Text) : Prop where
  line : IsLine t
  last : t.getLast?.any (!·.isBlank) = true

structure Framed (t : Text) : Prop where
  head : t.head?.any (!·.isBlank) = true
  last : t.getLast?.any (!·.isBlank) = true

/-! ## Lines -/

theorem isLine_append : IsLine (t ++ u) ↔ IsLine t ∧ IsLine u := List.forall_mem_append

theorem IsLine.append (ht : IsLine t) (hu : IsLine u) : IsLine (t ++ u) := isLine_append.mpr ⟨ht, hu⟩

theorem isLine_ofString {l : List Char} (h : l.all (· != '\n') = true) :
    IsLine (ofString (String.ofList l)) := by
  rw [ofString, String.toList_ofList]
  intro c hc
  obtain ⟨d, hd, rfl⟩ := List.mem_map.mp hc
  have hne : d ≠ '\n' := by simpa using List.all_eq_true.mp h d hd
  exact fun heq => hne (CodePoint.ofChar_injective heq)

theorem isLine_ofNat (n : ℕ) : IsLine (ofNat n) := by
  rintro c hc rfl
  exact absurd (isAsciiDigit_of_mem_ofNat hc) (by decide)

theorem splitAtNewlines_of_isLine (h : IsLine t) : splitAtNewlines t = [t] := pieces_of_forall_ne h

theorem isLine_of_mem_splitAtNewlines (t : Text) : ∀ line ∈ splitAtNewlines t, IsLine line := by
  induction t with
  | nil => exact List.forall_mem_singleton.mpr (List.forall_mem_nil _)
  | cons c t ih =>
    by_cases hc : c = '\n'
    · rw [hc, splitAtNewlines, pieces_cons_mark]
      exact List.forall_mem_cons.mpr ⟨List.forall_mem_nil _, ih⟩
    · have hne : splitAtNewlines t ≠ [] := pieces_ne_nil
      obtain ⟨piece, others, ht⟩ := List.exists_cons_of_ne_nil hne
      rw [ht, List.forall_mem_cons] at ih
      rw [splitAtNewlines, pieces_cons hc, ← splitAtNewlines, ht, List.headD_cons, List.tail_cons]
      exact List.forall_mem_cons.mpr ⟨List.forall_mem_cons.mpr ⟨hc, ih.1⟩, ih.2⟩

theorem splitAtNewlines_append : splitAtNewlines (t ++ ('\n' : CodePoint) :: u) =
    splitAtNewlines t ++ splitAtNewlines u :=
  pieces_append_mark

theorem join_splitAtNewlines (t : Text) : join "\n" (splitAtNewlines t) = t := by
  induction t with
  | nil => rfl
  | cons c t ih =>
    have hne : splitAtNewlines t ≠ [] := pieces_ne_nil
    obtain ⟨piece, others, ht⟩ := List.exists_cons_of_ne_nil hne
    by_cases hc : c = '\n'
    · rw [hc, splitAtNewlines, pieces_cons_mark, ← splitAtNewlines, ht, join_cons_cons, ← ht, ih]
      rfl
    · rw [splitAtNewlines, pieces_cons hc, ← splitAtNewlines, ht, List.headD_cons, List.tail_cons]
      rw [ht] at ih
      cases others with
      | nil => exact congrArg (c :: ·) ih
      | cons next others =>
        rw [join_cons_cons] at ih ⊢
        exact congrArg (c :: ·) ih

theorem splitAtNewlines_append_blank : splitAtNewlines (t ++ (ofString "\n\n" ++ u)) =
    splitAtNewlines t ++ [] :: splitAtNewlines u := by
  have hfeeds : ofString "\n\n" = [('\n' : CodePoint), ('\n' : CodePoint)] := rfl
  rw [hfeeds]
  exact splitAtNewlines_append.trans (congrArg _ pieces_cons_mark)

/-- A line of texts with an empty line between them is empty or a line of one of the texts. -/
theorem mem_splitAtNewlines_join {line : Text} (h : line ∈ splitAtNewlines (join "\n\n" ts)) :
    line = [] ∨ ∃ t ∈ ts, line ∈ splitAtNewlines t := by
  induction ts with
  | nil => exact Or.inl (List.mem_singleton.mp h)
  | cons t ts ih =>
    cases ts with
    | nil => exact Or.inr ⟨t, List.mem_singleton_self t, by simpa [join] using h⟩
    | cons u ts =>
      rw [join_cons_cons, splitAtNewlines_append_blank, List.mem_append, List.mem_cons] at h
      rcases h with h | h | h
      · exact Or.inr ⟨t, List.mem_cons_self, h⟩
      · exact Or.inl h
      · refine (ih h).imp_right ?_
        rintro ⟨v, hv, hline⟩
        exact ⟨v, List.mem_cons_of_mem _ hv, hline⟩

/-! ## Ends -/

theorem head_append {p : CodePoint → Bool} (ht : t.head?.any p = true) :
    (t ++ u).head?.any p = true := by
  cases t with
  | nil => exact absurd ht Bool.false_ne_true
  | cons c t => exact ht

theorem last_append {p : CodePoint → Bool} (hu : u.getLast?.any p = true) :
    (t ++ u).getLast?.any p = true := by
  have hne : u ≠ [] := by
    rintro rfl
    exact absurd hu Bool.false_ne_true
  rwa [List.getLast?_append_of_ne_nil t hne]

/-! ## Items -/

theorem IsLine.append_isItem (ht : IsLine t) (hu : IsItem u) : IsItem (t ++ u) where
  line := ht.append hu.line
  last := last_append hu.last

theorem isItem_ofString {l : List Char} (h : (l.all (· != '\n') &&
    l.getLast?.any fun c => !(CodePoint.ofChar c).isBlank) = true) :
    IsItem (ofString (String.ofList l)) where
  line := isLine_ofString ((Bool.and_eq_true _ _).mp h).1
  last := by
    rw [ofString, String.toList_ofList, List.getLast?_map, Option.any_map]
    exact ((Bool.and_eq_true _ _).mp h).2

theorem isItem_ofNat (n : ℕ) : IsItem (ofNat n) where
  line := isLine_ofNat n
  last := by
    rw [List.getLast?_eq_some_getLast ofNat_ne_nil, Option.any_some]
    have hdigit : ((ofNat n).getLast ofNat_ne_nil).isAsciiDigit = true :=
      isAsciiDigit_of_mem_ofNat (List.getLast_mem _)
    rw [CodePoint.isBlank_of_isAsciiDigit hdigit]
    rfl

theorem isItem_concat_singleton (h : IsItem t) : IsItem (concat [t]) := by
  rwa [concat_cons, concat_nil, List.append_nil]

theorem isItem_concat_cons (ht : IsLine t) (h : IsItem (concat ts)) : IsItem (concat (t :: ts)) :=
  ht.append_isItem h

/-! ## Framed texts -/

namespace Framed

theorem append (ht : Framed t) (hu : Framed u) : Framed (t ++ (s ++ u)) where
  head := head_append ht.head
  last := last_append (last_append hu.last)

theorem ne_nil (h : Framed t) : t ≠ [] := by
  rintro rfl
  exact Bool.false_ne_true h.head

theorem isBlank (h : Framed t) : t.isBlank = false := by
  obtain ⟨c, t, rfl⟩ := List.exists_cons_of_ne_nil h.ne_nil
  have hc : c.isBlank = false := by simpa using h.head
  rw [Text.isBlank, List.all_cons, hc]
  rfl

theorem trimLeft (h : Framed t) : Text.trimLeft (t ++ s) = t ++ s := by
  obtain ⟨c, t, rfl⟩ := List.exists_cons_of_ne_nil h.ne_nil
  have hc : c.isBlank = false := by simpa using h.head
  rw [Text.trimLeft, List.cons_append, List.dropWhile_cons_of_neg (by simp [hc])]

/-- Trimming takes off what blanks stand behind a framed text, and nothing of the text. -/
theorem trim_append (h : Framed t) (hs : ∀ c ∈ s, c.isBlank = true) : Text.trim (t ++ s) = t := by
  obtain ⟨front, c, rfl⟩ := (List.eq_nil_or_concat' t).resolve_left h.ne_nil
  have hc : c.isBlank = false := by simpa using h.last
  have hreverse : ∀ c ∈ s.reverse, c.isBlank = true := fun c hc => hs c (List.mem_reverse.mp hc)
  rw [Text.trim, h.trimLeft, trimRight, List.reverse_append, List.reverse_append,
    List.dropWhile_append_of_pos hreverse, List.reverse_singleton, List.singleton_append,
    List.dropWhile_cons_of_neg (by simp [hc]), List.reverse_cons, List.reverse_reverse]

theorem trim (h : Framed t) : Text.trim t = t := by
  have htrim : Text.trim (t ++ []) = t := h.trim_append fun c hc => absurd hc List.not_mem_nil
  rwa [List.append_nil] at htrim

end Framed

theorem framed_join (h : ∀ t ∈ ts, Framed t) (hne : ts ≠ []) : Framed (join separator ts) := by
  induction ts with
  | nil => exact absurd rfl hne
  | cons t ts ih =>
    rw [List.forall_mem_cons] at h
    cases ts with
    | nil => simpa [join] using h.1
    | cons u ts =>
      rw [join_cons_cons]
      exact h.1.append (ih h.2 (List.cons_ne_nil u ts))

/-- The last text stands at the end, whatever it is. -/
theorem join_concat (hne : ts ≠ []) : join separator (ts ++ [t]) = join separator ts ++
    (separator ++ t) := by
  induction ts with
  | nil => exact absurd rfl hne
  | cons u ts ih =>
    cases ts with
    | nil => rw [List.singleton_append, join_cons_cons, join, join, List.intercalate_singleton,
        List.intercalate_singleton]
    | cons v ts =>
      have hrest := ih (List.cons_ne_nil v ts)
      rw [List.cons_append] at hrest
      rw [List.cons_append, List.cons_append, join_cons_cons, hrest, join_cons_cons]
      simp only [List.append_assoc]

theorem splitAtNewlines_join (h : ∀ t ∈ ts, IsLine t) (hne : ts ≠ []) :
    splitAtNewlines (join "\n" ts) = ts := by
  induction ts with
  | nil => exact absurd rfl hne
  | cons t ts ih =>
    rw [List.forall_mem_cons] at h
    cases ts with
    | nil => simpa [join] using splitAtNewlines_of_isLine h.1
    | cons u ts =>
      have hfeed : ofString "\n" = [('\n' : CodePoint)] := rfl
      rw [join_cons_cons, hfeed, List.singleton_append, splitAtNewlines_append, ← hfeed,
        ih h.2 (List.cons_ne_nil u ts), splitAtNewlines_of_isLine h.1]
      rfl

end Text

end ZigAdvisor
