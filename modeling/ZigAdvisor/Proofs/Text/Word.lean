import ZigAdvisor.Proofs.Pattern.Spans

/-!
# Names, calls and whole words

A name is a run of word characters, a call is a name with blanks and a parenthesis behind it, and a
word occurs whole where no word character touches it. Blanks are no word characters, so the name
of a call can be told from its text, and no call starts inside another one.
-/

namespace ZigAdvisor

theorem Ranges.mem_of_contains {table : Ranges} {n : ℕ} (h : table.contains n = true) :
    ∃ r ∈ table, r.1 ≤ n ∧ n ≤ r.2 := by
  induction table with
  | nil => simp [Ranges.contains] at h
  | cons r table ih =>
    obtain ⟨first, last⟩ := r
    rw [Ranges.contains] at h
    split_ifs at h with hn
    · exact ⟨(first, last), List.mem_cons_self, by simpa using h, hn⟩
    · obtain ⟨r, hr, hbounds⟩ := ih h
      exact ⟨r, List.mem_cons_of_mem _ hr, hbounds⟩

namespace CodePoint

theorem wordTable_skips_blankTable : ∀ r ∈ Text.blankTable, ∀ i < r.2 - r.1 + 1,
    Text.wordTable.contains (r.1 + i) = false := by decide +kernel

theorem isWord_eq_false_of_isBlank {c : CodePoint} (h : c.isBlank = true) : c.isWord = false := by
  obtain ⟨r, hr, hfirst, hlast⟩ := Ranges.mem_of_contains h
  have := wordTable_skips_blankTable r hr (c.val - r.1) (by omega)
  rwa [Nat.add_sub_cancel' hfirst] at this

theorem ofChar_injective : Function.Injective ofChar := by
  intro c d h
  exact Char.ext (UInt32.toNat_inj.mp (congrArg val h))

end CodePoint

namespace Text

theorem ofString_injective : Function.Injective ofString := by
  intro s t h
  exact String.toList_inj.mp (List.map_injective_iff.mpr CodePoint.ofChar_injective h)

/-- A search by name among all values finds the one value of that name. -/
theorem find?_ofString_eq_some {α : Type} {all : List α} {label : α → String}
    (hlabel : Function.Injective label) (hall : ∀ a, a ∈ all) {t : Text} {a : α} :
    (all.find? fun b => ofString (label b) == t) = some a ↔ t = ofString (label a) := by
  constructor
  · intro h
    have hname := List.find?_some h
    exact (beq_iff_eq.mp hname).symm
  · rintro rfl
    cases hfind : all.find? fun b => ofString (label b) == ofString (label a) with
    | none => exact absurd (List.find?_eq_none.mp hfind a (hall a)) (by simp)
    | some b =>
      have hname := List.find?_some hfind
      rw [hlabel (ofString_injective (beq_iff_eq.mp hname))]

/-- If all values are registered, each under its name, a value is found under its name alone. -/
theorem registered?_eq_some {α : Type} {all : List α} {label : α → String}
    {registry : List (String × α)} (hregistry : registry = all.map fun a => (label a, a))
    (hlabel : Function.Injective label) (hall : ∀ a, a ∈ all) {t : Text} {a : α} :
    registered? registry t = some a ↔ t = ofString (label a) := by
  rw [registered?, hregistry, List.find?_map, Option.map_map,
    ← find?_ofString_eq_some hlabel hall]
  simp [Function.comp_def]

variable {before : Option CodePoint} {name name' m m' w t u v rest rest' : Text}

def IsName (name : Text) : Prop := name ≠ [] ∧ ∀ c ∈ name, c.isWord = true

def AreWords (keywords : List String) : Prop := ∀ k ∈ keywords, IsName (ofString k)

instance (name : Text) : Decidable (IsName name) :=
  inferInstanceAs (Decidable (name ≠ [] ∧ ∀ c ∈ name, c.isWord = true))

instance (keywords : List String) : Decidable (AreWords keywords) :=
  inferInstanceAs (Decidable (∀ k ∈ keywords, IsName (ofString k)))

/-- A name, blanks, and the parenthesis that opens the arguments. -/
def IsCall (name m : Text) : Prop :=
  IsName name ∧
    ∃ gap : Text, (∀ c ∈ gap, c.isBlank = true) ∧ m = name ++ (gap ++ [('(' : CodePoint)])

def AfterWord (before : Option CodePoint) : Prop := before.any CodePoint.isWord = true

/-- Whether `w` occurs in `t` with no word character before or behind it. -/
def HasWord (w t : Text) : Prop :=
  ∃ a b, t = a ++ (w ++ b) ∧ ¬ AfterWord (lastOr none a) ∧ ¬ AfterWord b.head?

theorem HasWord.isInfix (h : HasWord w t) : w <:+: t := by
  obtain ⟨a, b, rfl, -, -⟩ := h
  exact ⟨a, b, List.append_assoc a w b⟩

/-- A word that stands nowhere whole runs on, to the left or to the right, wherever it stands. -/
theorem not_hasWord_iff : ¬ HasWord w t ↔
    ∀ a b, t = a ++ (w ++ b) → AfterWord (lastOr none a) ∨ AfterWord b.head? := by
  simp only [HasWord, not_exists, not_and, not_not, ← or_iff_not_imp_left]

/-- A text that is a run of one class and then something else is so in one way only. -/
theorem run_unique {p : CodePoint → Bool} {a a' b b' : Text} {x x' : CodePoint}
    (ha : ∀ c ∈ a, p c = true) (ha' : ∀ c ∈ a', p c = true) (hx : p x = false)
    (hx' : p x' = false) (h : a ++ x :: b = a' ++ x' :: b') : a = a' ∧ x = x' ∧ b = b' := by
  induction a generalizing a' with
  | nil =>
    cases a' with
    | nil => exact ⟨rfl, (List.cons.inj h).1, (List.cons.inj h).2⟩
    | cons c a' =>
      have := ha' x ((List.cons.inj h).1 ▸ List.mem_cons_self)
      simp [hx] at this
  | cons c a ih =>
    cases a' with
    | nil =>
      have := ha x' ((List.cons.inj h).1 ▸ List.mem_cons_self)
      simp [hx'] at this
    | cons c' a' =>
      obtain ⟨rfl, htail⟩ := List.cons.inj h
      rw [List.forall_mem_cons] at ha ha'
      obtain ⟨rfl, hrest⟩ := ih ha.2 ha'.2 htail
      exact ⟨rfl, hrest⟩

theorem isWord_paren : CodePoint.isWord ('(' : CodePoint) = false := by decide

theorem isBlank_paren : CodePoint.isBlank ('(' : CodePoint) = false := by decide

/-- What stands behind the name of a call has no word character. -/
theorem isWord_of_mem_gap {gap : Text} (hgap : ∀ c ∈ gap, c.isBlank = true) :
    ∀ c ∈ gap ++ [('(' : CodePoint)], c.isWord = false := by
  intro c hc
  rcases List.mem_append.mp hc with hc | hc
  · exact CodePoint.isWord_eq_false_of_isBlank (hgap c hc)
  · rw [List.mem_singleton.mp hc]
    exact isWord_paren

theorem not_afterWord_some {c : CodePoint} (h : c.isWord = false) : ¬ AfterWord (some c) := by
  simp [AfterWord, h]

/-- A place after a word character is one wherever its text stands. -/
theorem AfterWord.lastOr_of_none (h : AfterWord (lastOr none u)) : AfterWord (lastOr before u) := by
  cases u with
  | nil => simp [AfterWord] at h
  | cons c u => exact h

theorem IsName.afterWord (h : IsName name) : AfterWord (lastOr before name) := by
  obtain ⟨hne, hname⟩ := h
  rcases List.eq_nil_or_concat' name with rfl | ⟨u, c, rfl⟩
  · exact absurd rfl hne
  · rw [AfterWord, lastOr_concat]
    exact hname c (by simp)

/-- Two names that start at the same place and end with their words are the same. -/
theorem IsName.unique (hm : IsName m) (hn : IsName n) (hrest : ¬ AfterWord rest.head?)
    (hbehind : ¬ AfterWord behind.head?) (h : m ++ rest = n ++ behind) : m = n := by
  have noLonger {a b u v : Text} (hb : IsName b) (hu : ¬ AfterWord u.head?) {w : Text}
      (hw : b = a ++ w) (huv : u = w ++ v) : a = b := by
    cases w with
    | nil => rw [hw, List.append_nil]
    | cons c w =>
      have hc : c.isWord = true := hb.2 c (by rw [hw]; simp)
      exact absurd (by simpa [AfterWord, huv] using hc) hu
  rcases List.append_eq_append_iff.mp h with ⟨w, hw, hv⟩ | ⟨w, hw, hv⟩
  · exact noLonger hn hrest hw hv
  · exact (noLonger hm hbehind hw hv).symm

namespace IsCall

theorem exists_cons (h : IsCall name m) : ∃ c s, m = c :: s ∧ c.isWord = true := by
  obtain ⟨⟨hne, hname⟩, gap, -, rfl⟩ := h
  obtain ⟨c, s, rfl⟩ := List.exists_cons_of_ne_nil hne
  exact ⟨c, s ++ (gap ++ [('(' : CodePoint)]), rfl, hname c List.mem_cons_self⟩

theorem ne_nil (h : IsCall name m) : m ≠ [] := by
  obtain ⟨c, s, rfl, -⟩ := h.exists_cons
  exact List.cons_ne_nil _ _

/-- The name and the extent of a call can be told from its text. -/
theorem unique (h : IsCall name m) (h' : IsCall name' m') (heq : m ++ rest = m' ++ rest') :
    name = name' ∧ m = m' := by
  obtain ⟨⟨-, hname⟩, gap, hgap, rfl⟩ := h
  obtain ⟨⟨-, hname'⟩, gap', hgap', rfl⟩ := h'
  -- The name ends at the first code point that belongs to no word, the gap at the parenthesis.
  obtain ⟨x, s, hs⟩ := List.exists_cons_of_ne_nil (List.concat_ne_nil ('(' : CodePoint) gap)
  obtain ⟨x', s', hs'⟩ := List.exists_cons_of_ne_nil (List.concat_ne_nil ('(' : CodePoint) gap')
  have hx := isWord_of_mem_gap hgap x (hs ▸ List.mem_cons_self)
  have hx' := isWord_of_mem_gap hgap' x' (hs' ▸ List.mem_cons_self)
  have heq' : name ++ x :: (s ++ rest) = name' ++ x' :: (s' ++ rest') := by
    rw [hs, hs', List.append_assoc, List.append_assoc] at heq
    exact heq
  obtain ⟨rfl, rfl, hss⟩ := run_unique hname hname' hx hx' heq'
  have hgaps : gap ++ ('(' : CodePoint) :: rest = gap' ++ ('(' : CodePoint) :: rest' := by
    rw [List.append_cons, List.append_cons gap', hs, hs', List.cons_append, List.cons_append, hss]
  obtain ⟨rfl, -⟩ := run_unique hgap hgap' isBlank_paren isBlank_paren hgaps
  exact ⟨rfl, rfl⟩

/-- Inside a call, either a word character stands in front or none follows. -/
theorem inside (h : IsCall name (u ++ v)) (hu : u ≠ []) (hv : v ≠ []) :
    AfterWord (lastOr before u) ∨ ¬ AfterWord v.head? := by
  obtain ⟨⟨-, hname⟩, gap, hgap, heq⟩ := h
  rcases List.append_eq_append_iff.mp heq with ⟨s, rfl, -⟩ | ⟨s, rfl, hs⟩
  · left
    exact IsName.afterWord ⟨hu, fun c hc => hname c (List.mem_append_left _ hc)⟩
  · right
    obtain ⟨c, v, rfl⟩ := List.exists_cons_of_ne_nil hv
    have := isWord_of_mem_gap hgap c (by rw [hs]; simp)
    simp [AfterWord, this]

/-- If a call starts in a text that no word character follows, its name lies in the text. -/
theorem name_of_append (h : IsCall name m) (heq : v ++ rest = m ++ rest') (hv : v ≠ [])
    (hrest : ¬ AfterWord rest.head?) : ∃ b, v = name ++ b ∧ ¬ AfterWord b.head? := by
  obtain ⟨⟨-, hname⟩, gap, hgap, rfl⟩ := h
  rw [List.append_assoc] at heq
  rcases List.append_eq_append_iff.mp heq with ⟨s, hs, rfl⟩ | ⟨b, rfl, hb⟩
  · cases s with
    | nil => exact ⟨[], by simpa using hs.symm, by simp [AfterWord]⟩
    | cons c s =>
      have hc : c.isWord = true := hname c (by rw [hs]; simp)
      exact absurd (by simpa [AfterWord] using hc) hrest
  · refine ⟨b, rfl, ?_⟩
    cases b with
    | nil => simp [AfterWord]
    | cons c b =>
      obtain ⟨x, g, hg⟩ := List.exists_cons_of_ne_nil (List.concat_ne_nil ('(' : CodePoint) gap)
      have hx := isWord_of_mem_gap hgap x (hg ▸ List.mem_cons_self)
      rw [hg, List.cons_append, List.cons_append] at hb
      obtain ⟨rfl, -⟩ := List.cons.inj hb
      simp [AfterWord, hx]

end IsCall

end Text

open Text in
/-- An edge of a word in front of a word says that no word character stands before. -/
theorem Pattern.spans_wordEdge_word {q : Pattern} {before : Option CodePoint} {m rest : Text}
    (hq : q.Spans before m rest → ∃ c s, m = c :: s ∧ c.isWord = true) :
    (seq wordEdge q).Spans before m rest ↔ ¬ AfterWord before ∧ q.Spans before m rest := by
  rw [spans_wordEdge_seq]
  refine and_congr_left fun h => ?_
  obtain ⟨c, s, rfl, hc⟩ := hq h
  simp [AfterWord, hc]

open Text in
/-- A pattern of names between two edges of words spans whole words. -/
theorem Pattern.spans_wholeWord {p : Pattern}
    (hp : ∀ {before m rest}, p.Spans before m rest → IsName m) {before : Option CodePoint}
    {m rest : Text} : (seq wordEdge (seq p wordEdge)).Spans before m rest ↔
      p.Spans before m rest ∧ ¬ AfterWord before ∧ ¬ AfterWord rest.head? := by
  have hedges (h : IsName m) :
      before.any CodePoint.isWord ≠ (m ++ rest).head?.any CodePoint.isWord ∧
      (lastOr before m).any CodePoint.isWord ≠ rest.head?.any CodePoint.isWord ↔
      ¬ AfterWord before ∧ ¬ AfterWord rest.head? := by
    have hlast : AfterWord (lastOr before m) := h.afterWord
    obtain ⟨c, s, rfl⟩ := List.exists_cons_of_ne_nil h.1
    have hc := h.2 c List.mem_cons_self
    simp_all [AfterWord]
  rw [spans_wordEdge_seq]
  constructor
  · rintro ⟨hfront, x, y, rfl, hx, rfl, hback⟩
    rw [List.append_nil] at *
    exact ⟨hx, (hedges (hp hx)).mp ⟨hfront, hback⟩⟩
  · rintro ⟨hm, houtside⟩
    obtain ⟨hfront, hback⟩ := (hedges (hp hm)).mpr houtside
    exact ⟨hfront, m, [], (List.append_nil m).symm, hm, rfl, hback⟩

end ZigAdvisor
