import Mathlib.Tactic
import ZigAdvisor.Report.Render

/-!
# Surrogates in texts

A high surrogate directly in front of a low one is written with the escapes of one code point, so a
text that holds such a pair cannot be read back. Known texts have no surrogates at all. Where a text
that may hold some stands between known texts that are not empty, no pair can arise at its ends.
-/

namespace ZigAdvisor

namespace CodePoint

theorem val_ofNat {n : ℕ} (hn : n < 0x110000) : (ofNat n).val = n := by rw [ofNat, dif_pos hn]

theorem ofNat_val (c : CodePoint) : ofNat c.val = c := by rw [ofNat, dif_pos c.isLt]

def IsHigh (c : CodePoint) : Prop := 0xD800 ≤ c.val ∧ c.val ≤ 0xDBFF

def IsLow (c : CodePoint) : Prop := 0xDC00 ≤ c.val ∧ c.val ≤ 0xDFFF

def IsSurrogate (c : CodePoint) : Prop := 0xD800 ≤ c.val ∧ c.val ≤ 0xDFFF

instance (c : CodePoint) : Decidable c.IsHigh := inferInstanceAs (Decidable (_ ∧ _))

instance (c : CodePoint) : Decidable c.IsLow := inferInstanceAs (Decidable (_ ∧ _))

instance (c : CodePoint) : Decidable c.IsSurrogate := inferInstanceAs (Decidable (_ ∧ _))

theorem IsHigh.isSurrogate {c : CodePoint} (h : c.IsHigh) : c.IsSurrogate := by
  have hle := h.2
  exact ⟨h.1, by omega⟩

theorem IsLow.isSurrogate {c : CodePoint} (h : c.IsLow) : c.IsSurrogate := by
  have hle := h.1
  exact ⟨by omega, h.2⟩

theorem not_isSurrogate_ofChar (c : Char) : ¬ (ofChar c).IsSurrogate := by
  rintro ⟨hlow, hhigh⟩
  have hval : (ofChar c).val = c.val.toNat := rfl
  rcases c.valid with h | h
  · have hlt : c.val.toNat < 0xD800 := h
    omega
  · have hlt : 0xDFFF < c.val.toNat := h.1
    omega

end CodePoint

namespace Text

variable {t u : Text} {ts : List Text} {c : CodePoint}

def Plain (t : Text) : Prop := ∀ c ∈ t, ¬ c.IsSurrogate

/-- A text in which no high surrogate stands directly in front of a low one. -/
def Unpaired (t : Text) : Prop := t.IsChain fun a b => ¬ (a.IsHigh ∧ b.IsLow)

/-- A text without pairs that cannot form one with what stands in front of it. -/
structure Guarded (t : Text) : Prop where
  unpaired : Unpaired t
  head : ∀ c, t.head? = some c → ¬ c.IsLow

instance (t : Text) : Decidable t.Plain := inferInstanceAs (Decidable (∀ c ∈ t, _))

/-! ## Texts without surrogates -/

@[simp] theorem plain_nil : Plain [] := by simp [Plain]

theorem plain_cons : Plain (c :: t) ↔ ¬ c.IsSurrogate ∧ Plain t := List.forall_mem_cons

@[simp] theorem plain_append : Plain (t ++ u) ↔ Plain t ∧ Plain u := List.forall_mem_append

@[simp] theorem plain_ite {p : Prop} [Decidable p] :
    Plain (if p then t else u) ↔ (p → Plain t) ∧ (¬ p → Plain u) := by
  split <;> simp [*]

@[simp] theorem plain_ofString (s : String) : Plain (ofString s) := by
  intro c hc
  obtain ⟨d, -, rfl⟩ := List.mem_map.mp hc
  exact CodePoint.not_isSurrogate_ofChar d

@[simp] theorem plain_ofNat (n : ℕ) : Plain (ofNat n) := by
  intro c hc
  obtain ⟨d, -, rfl⟩ := List.mem_map.mp hc
  exact CodePoint.not_isSurrogate_ofChar d

@[simp] theorem plain_ofInt (i : ℤ) : Plain (ofInt i) := by
  unfold ofInt
  split
  · exact plain_cons.mpr ⟨CodePoint.not_isSurrogate_ofChar _, plain_ofNat _⟩
  · exact plain_ofNat _

theorem plain_ofLines (lines : List String) : Plain (ofLines lines) := by
  intro c hc
  obtain ⟨line, -, hline⟩ := List.mem_flatMap.mp hc
  exact (plain_append.mpr ⟨plain_ofString line, plain_ofString _⟩) c hline

theorem Plain.of_infix (h : Plain t) (hu : u <:+: t) : Plain u := fun c hc => h c (hu.subset hc)

theorem join_cons_cons {separator : Text} :
    join separator (t :: u :: ts) = t ++ (separator ++ join separator (u :: ts)) := by
  rw [join, List.intercalate_cons_cons, List.append_assoc]
  rfl

theorem forall_plain_map {α : Type} (f : α → String) (items : List α) :
    ∀ t ∈ items.map fun a => ofString (f a), Plain t := by
  rw [List.forall_mem_map]
  exact fun a _ => plain_ofString (f a)

theorem plain_join {separator : Text} (hseparator : Plain separator) (h : ∀ t ∈ ts, Plain t) :
    Plain (join separator ts) := by
  induction ts with
  | nil => exact plain_nil
  | cons t ts ih =>
    rw [List.forall_mem_cons] at h
    cases ts with
    | nil => simpa [join] using h.1
    | cons u ts =>
      rw [join_cons_cons, plain_append, plain_append]
      exact ⟨h.1, hseparator, ih h.2⟩

theorem trim_isInfix (t : Text) : trim t <:+: t := by
  have hleft : trimLeft t <:+ t := List.dropWhile_suffix _
  have hright : trim t <+: trimLeft t := by
    rw [trim, trimRight, ← List.reverse_suffix, List.reverse_reverse]
    exact List.dropWhile_suffix _
  exact hright.isInfix.trans hleft.isInfix

theorem Plain.trim (h : Plain t) : Plain (trim t) := h.of_infix (trim_isInfix t)

theorem plain_bulletList (h : ∀ t ∈ ts, Plain t) : Plain (bulletList ts) := by
  refine plain_join (plain_ofString _) ?_
  rw [List.forall_mem_map]
  intro t ht
  exact plain_append.mpr ⟨plain_ofString _, plain_append.mpr ⟨h t ht, plain_nil⟩⟩

theorem plain_sections {parts : List (Text × Text)} (h : ∀ p ∈ parts, Plain p.1 ∧ Plain p.2) :
    Plain (sections parts) := by
  apply Plain.trim
  refine plain_join (plain_ofString _) ?_
  rw [List.forall_mem_map]
  intro p hp
  exact plain_append.mpr ⟨(h p hp).1, plain_append.mpr ⟨plain_ofString _,
    plain_append.mpr ⟨(h p hp).2, plain_nil⟩⟩⟩

/-! ## Texts without pairs -/

@[simp] theorem unpaired_nil : Unpaired [] := List.isChain_nil

theorem unpaired_cons :
    Unpaired (c :: t) ↔ (∀ d ∈ t.head?, ¬ (c.IsHigh ∧ d.IsLow)) ∧ Unpaired t :=
  List.isChain_cons

theorem Unpaired.of_infix (h : Unpaired t) (hu : u <:+: t) : Unpaired u := List.IsChain.infix h hu

theorem Unpaired.trim (h : Unpaired t) : Unpaired (trim t) := h.of_infix (trim_isInfix t)

theorem Plain.append_unpaired (ht : Plain t) (hu : Unpaired u) : Unpaired (t ++ u) := by
  induction t with
  | nil => exact hu
  | cons c t ih =>
    rw [plain_cons] at ht
    rw [List.cons_append, unpaired_cons]
    exact ⟨fun d _ h => ht.1 h.1.isSurrogate, ih ht.2⟩

theorem Plain.unpaired (h : Plain t) : Unpaired t := by
  have hnil := h.append_unpaired unpaired_nil
  rwa [List.append_nil] at hnil

@[simp] theorem unpaired_ofString (s : String) : Unpaired (ofString s) :=
  (plain_ofString s).unpaired

theorem Unpaired.append (ht : Unpaired t) (hu : Guarded u) : Unpaired (t ++ u) := by
  refine List.isChain_append.mpr ⟨ht, hu.unpaired, ?_⟩
  intro c _ d hd h
  exact hu.head d hd h.2

theorem guarded_nil : Guarded [] := ⟨unpaired_nil, by simp⟩

theorem Plain.append_guarded (ht : Plain t) (hne : t ≠ []) (hu : Unpaired u) :
    Guarded (t ++ u) where
  unpaired := ht.append_unpaired hu
  head c hc hlow := by
    rw [List.head?_append_of_ne_nil t hne] at hc
    exact ht c (List.mem_of_mem_head? hc) hlow.isSurrogate

theorem Plain.guarded (h : Plain t) : Guarded t := by
  by_cases hne : t = []
  · rw [hne]
    exact guarded_nil
  · have hnil := h.append_guarded hne unpaired_nil
    rwa [List.append_nil] at hnil

theorem Guarded.append (ht : Guarded t) (hu : Guarded u) : Guarded (t ++ u) where
  unpaired := ht.unpaired.append hu
  head := by
    cases t with
    | nil => exact hu.head
    | cons c t => exact ht.head

theorem guarded_concat (h : ∀ t ∈ ts, Guarded t) : Guarded (concat ts) := by
  induction ts with
  | nil => exact guarded_nil
  | cons t ts ih =>
    rw [List.forall_mem_cons] at h
    exact h.1.append (ih h.2)

theorem guarded_join {separator : Text} (hseparator : Guarded separator)
    (h : ∀ t ∈ ts, Guarded t) : Guarded (join separator ts) := by
  induction ts with
  | nil => exact guarded_nil
  | cons t ts ih =>
    rw [List.forall_mem_cons] at h
    cases ts with
    | nil => simpa [join] using h.1
    | cons u ts =>
      rw [join_cons_cons]
      exact h.1.append (hseparator.append (ih h.2))

/-! ## Known texts in between -/

theorem unpaired_constant (s : String) (h : Unpaired t) : Unpaired (ofString s ++ t) :=
  (plain_ofString s).append_unpaired h

theorem guarded_constant (s : String) (hs : ofString s ≠ []) (h : Unpaired t) :
    Guarded (ofString s ++ t) :=
  (plain_ofString s).append_guarded hs h

theorem guarded_framed (s : String) (hs : ofString s ≠ []) (ht : Unpaired t) (hu : Guarded u) :
    Guarded (ofString s ++ (t ++ u)) :=
  guarded_constant s hs (ht.append hu)

@[simp] theorem guarded_ofString (s : String) : Guarded (ofString s) := (plain_ofString s).guarded

theorem guarded_bulletList (h : ∀ t ∈ ts, Unpaired t) : Guarded (bulletList ts) := by
  refine guarded_join (plain_ofString _).guarded ?_
  rw [List.forall_mem_map]
  intro t ht
  exact guarded_constant _ (by decide) ((h t ht).append guarded_nil)

theorem unpaired_sections {parts : List (Text × Text)}
    (h : ∀ p ∈ parts, Guarded p.1 ∧ Unpaired p.2) : Unpaired (sections parts) := by
  apply Unpaired.trim
  refine (guarded_join (plain_ofString _).guarded ?_).unpaired
  rw [List.forall_mem_map]
  intro p hp
  have hbody := (h p hp).2.append guarded_nil
  exact (h p hp).1.append (guarded_constant _ (by decide) hbody)

end Text

end ZigAdvisor
