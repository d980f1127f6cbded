import ZigAdvisor.Proofs.Number.Literal
import ZigAdvisor.Rpc.Reply

/-!
# Written values are printable

A written value is made of the printable code points of ASCII, and of line feeds if the layout has
some. So a value on one line holds no line feed and no carriage return, whatever its strings hold.
-/

namespace ZigAdvisor

def CodePoint.IsPrintableAscii (c : CodePoint) : Prop := 0x20 ≤ c.val ∧ c.val ≤ 0x7E

instance (c : CodePoint) : Decidable c.IsPrintableAscii := inferInstanceAs (Decidable (_ ∧ _))

theorem CodePoint.IsPrintableAscii.isAscii {c : CodePoint} (h : c.IsPrintableAscii) :
    c.isAscii = true := by
  have hle := h.2
  simp only [CodePoint.isAscii, decide_eq_true_eq]
  omega

theorem CodePoint.IsPrintableAscii.ne_newline {c : CodePoint} (h : c.IsPrintableAscii) :
    c ≠ ('\n' : CodePoint) := by
  rintro rfl
  exact absurd h (by decide)

theorem CodePoint.IsPrintableAscii.ne_return {c : CodePoint} (h : c.IsPrintableAscii) :
    c ≠ ('\r' : CodePoint) := by
  rintro rfl
  exact absurd h (by decide)

theorem CodePoint.isPrintableAscii_of_isAsciiDigit {c : CodePoint} (h : c.isAsciiDigit = true) :
    c.IsPrintableAscii := by
  have hdigit := CodePoint.isAsciiDigit_iff.mp h
  unfold IsPrintableAscii
  omega

namespace Text

variable {t u : Text}

def Printable (t : Text) : Prop := ∀ c ∈ t, c.IsPrintableAscii

instance (t : Text) : Decidable t.Printable := inferInstanceAs (Decidable (∀ c ∈ t, _))

@[simp] theorem printable_nil : Printable [] := by simp [Printable]

@[simp] theorem printable_cons {c : CodePoint} :
    Printable (c :: t) ↔ c.IsPrintableAscii ∧ Printable t :=
  List.forall_mem_cons

@[simp] theorem printable_append : Printable (t ++ u) ↔ Printable t ∧ Printable u :=
  List.forall_mem_append

theorem IsNumber.printable (h : IsNumber t) : Printable t :=
  h.forall_mem (fun _ => CodePoint.isPrintableAscii_of_isAsciiDigit) (by decide)

theorem val_hexDigit {n : ℕ} (hn : n < 16) :
    (hexDigit n).val = if n < 10 then 0x30 + n else 0x57 + n := by
  unfold hexDigit CodePoint.ofNat
  split <;> rw [dif_pos (by omega)]

theorem printable_hex (width n : ℕ) : Printable (hex width n) := by
  induction width with
  | zero => exact printable_nil
  | succ width ih =>
    rw [hex]
    refine printable_cons.mpr ⟨?_, ih⟩
    have hlt : (n >>> (4 * width)) % 16 < 16 := Nat.mod_lt _ (by decide)
    unfold CodePoint.IsPrintableAscii
    rw [val_hexDigit hlt]
    split <;> omega

end Text

namespace Json

open Text (Printable printable_nil printable_cons printable_append)

theorem printable_unitEscape (n : ℕ) : Printable (unitEscape n) := by
  have hstart : Printable "\\u" := by decide
  simp only [unitEscape, Text.concat_cons, Text.concat_nil, printable_append, printable_nil,
    and_true]
  exact ⟨hstart, Text.printable_hex 4 n⟩

theorem isPrintableAscii_of_shortEscape? {c letter : CodePoint} (h : shortEscape? c = some letter) :
    letter.IsPrintableAscii := by
  have hall : ∀ e ∈ shortEscapes, e.2.IsPrintableAscii := by decide
  exact hall _ (mem_shortEscapes h)

theorem printable_writePoint (c : CodePoint) : Printable (writePoint c) := by
  unfold writePoint
  split
  · next letter hletter =>
    refine printable_cons.mpr ⟨by decide, printable_cons.mpr ⟨?_, printable_nil⟩⟩
    exact isPrintableAscii_of_shortEscape? hletter
  · split_ifs with hplain
    · exact printable_cons.mpr ⟨hplain, printable_nil⟩
    · exact printable_unitEscape _
    · exact printable_append.mpr ⟨printable_unitEscape _, printable_unitEscape _⟩

theorem printable_writeString (t : Text) : Printable (writeString t) := by
  refine printable_cons.mpr ⟨by decide, printable_append.mpr ⟨?_, by decide⟩⟩
  intro c hc
  obtain ⟨point, -, hpoint⟩ := List.mem_flatMap.mp hc
  exact printable_writePoint point c hpoint

theorem printable_writeDouble (d : Double) : Printable (writeDouble d) := by
  cases d with
  | nan => decide
  | infinity negative => cases negative <;> decide
  | finite negative mantissa exponent =>
    have hfinite : (Double.finite negative mantissa exponent).IsFinite := trivial
    exact (Double.isNumber_writeDouble hfinite).printable

/-! ## Values -/

/-- Whether a text is printable, apart from the line feeds of a layout that has some. -/
def Laid (layout : Layout) (t : Text) : Prop :=
  ∀ c ∈ t, c.IsPrintableAscii ∨ (layout ≠ .oneLine ∧ c = '\n')

variable {layout : Layout} {t u : Text}

theorem laid_nil : Laid layout [] := by simp [Laid]

theorem laid_append : Laid layout (t ++ u) ↔ Laid layout t ∧ Laid layout u :=
  List.forall_mem_append

theorem laid_of_printable (h : Printable t) : Laid layout t := fun c hc => Or.inl (h c hc)

theorem Laid.of_deeper (h : Laid layout.deeper t) : Laid layout t := by
  cases layout with
  | oneLine => exact h
  | indented depth => exact fun c hc => (h c hc).imp_right fun hfeed => ⟨by simp, hfeed.2⟩

theorem laid_lead (layout : Layout) : Laid layout layout.lead := by
  cases layout with
  | oneLine => exact laid_nil
  | indented depth =>
    intro c hc
    rcases List.mem_cons.mp hc with rfl | hc
    · exact Or.inr ⟨by simp, rfl⟩
    · rw [List.eq_of_mem_replicate hc]
      exact Or.inl (by decide)

theorem laid_separator (layout : Layout) : Laid layout layout.separator := by
  cases layout with
  | oneLine => exact laid_of_printable (by decide)
  | indented depth =>
    exact List.forall_mem_cons.mpr ⟨Or.inl (by decide), laid_lead (.indented depth)⟩

mutual

theorem laid_write : ∀ (layout : Layout) (j : Json), Laid layout (write layout j)
  | _, null => by rw [write]; exact laid_of_printable (by decide)
  | _, bool b => by rw [write]; exact laid_of_printable (by cases b <;> decide)
  | _, int i => by rw [write]; exact laid_of_printable (Text.isNumber_ofInt i).printable
  | _, float d => by rw [write]; exact laid_of_printable (printable_writeDouble d)
  | _, str t => by rw [write]; exact laid_of_printable (printable_writeString t)
  | _, arr [] => by rw [write]; exact laid_of_printable (by decide)
  | layout, arr (item :: items) => by
    have hopen : Laid layout "[" := laid_of_printable (by decide)
    have hclose : Laid layout "]" := laid_of_printable (by decide)
    simp only [write, Text.concat_cons, Text.concat_nil, laid_append]
    exact ⟨hopen, (laid_lead _).of_deeper, (laid_write _ item).of_deeper,
      (laid_writeItems _ items).of_deeper, laid_lead _, hclose, laid_nil⟩
  | _, obj [] => by rw [write]; exact laid_of_printable (by decide)
  | layout, obj ((key, value) :: members) => by
    have hopen : Laid layout "\x7b" := laid_of_printable (by decide)
    have hclose : Laid layout "\x7d" := laid_of_printable (by decide)
    have hcolon : Laid layout ": " := laid_of_printable (by decide)
    simp only [write, Text.concat_cons, Text.concat_nil, laid_append]
    exact ⟨hopen, (laid_lead _).of_deeper, laid_of_printable (printable_writeString key), hcolon,
      (laid_write _ value).of_deeper, (laid_writeMembers _ members).of_deeper, laid_lead _, hclose,
      laid_nil⟩

theorem laid_writeItems : ∀ (layout : Layout) (items : List Json),
    Laid layout (writeItems layout items)
  | _, [] => by rw [writeItems]; exact laid_nil
  | layout, item :: items => by
    simp only [writeItems, Text.concat_cons, Text.concat_nil, laid_append]
    exact ⟨laid_separator _, laid_write _ item, laid_writeItems _ items, laid_nil⟩

theorem laid_writeMembers : ∀ (layout : Layout) (members : List (Text × Json)),
    Laid layout (writeMembers layout members)
  | _, [] => by rw [writeMembers]; exact laid_nil
  | layout, (key, value) :: members => by
    have hcolon : Laid layout ": " := laid_of_printable (by decide)
    simp only [writeMembers, Text.concat_cons, Text.concat_nil, laid_append]
    exact ⟨laid_separator _, laid_of_printable (printable_writeString key), hcolon,
      laid_write _ value, laid_writeMembers _ members, laid_nil⟩

end

theorem printable_line (j : Json) : Printable j.line :=
  fun c hc => (laid_write .oneLine j c hc).resolve_right fun h => h.1 rfl

end Json

theorem Rpc.Reply.printable_line (r : Reply) : Text.Printable r.line := r.toJson.printable_line

end ZigAdvisor
