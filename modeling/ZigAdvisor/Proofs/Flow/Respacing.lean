import ZigAdvisor.Flow.Complexity
import ZigAdvisor.Proofs.Flow.CallScan
import ZigAdvisor.Proofs.Pattern.Renaming

/-!
# Other blanks

A pattern that names no blank and no line takes all blanks alike. The tables of running time and
the tokens of loops and calls are made of such patterns, so their figures are those of the text in
which every blank is a space: a text may be laid out anew and nothing changes.
-/

namespace ZigAdvisor

def CodePoint.plain (c : CodePoint) : CodePoint := if c.isBlank then ' ' else c

namespace Text

def plain (t : Text) : Text := t.map CodePoint.plain

/-- Whether the texts differ in their blanks only. -/
def Respaced : Text → Text → Prop :=
  List.Forall₂ fun c d => c = d ∨ c.isBlank = true ∧ d.isBlank = true

instance (A B : Text) : Decidable (A.Respaced B) :=
  inferInstanceAs (Decidable (List.Forall₂ _ A B))

theorem Respaced.plain_eq {A B : Text} (h : A.Respaced B) : A.plain = B.plain := by
  induction h with
  | nil => rfl
  | cons hcd _ ih =>
    refine congrArg₂ List.cons ?_ ih
    rcases hcd with rfl | ⟨hc, hd⟩
    · rfl
    · rw [CodePoint.plain, CodePoint.plain, if_pos hc, if_pos hd]

end Text

namespace CodePoint

variable {c : CodePoint}

theorem isBlank_space : isBlank (' ' : CodePoint) = true := by decide

theorem plain_of_not_isBlank (h : c.isBlank = false) : c.plain = c := by
  rw [plain, h]
  rfl

@[simp] theorem isBlank_plain (c : CodePoint) : c.plain.isBlank = c.isBlank := by
  by_cases h : c.isBlank = true
  · rw [plain, if_pos h, isBlank_space, h]
  · rw [plain, if_neg h]

@[simp] theorem isWord_plain (c : CodePoint) : c.plain.isWord = c.isWord := by
  by_cases h : c.isBlank = true
  · rw [plain, if_pos h, isWord_eq_false_of_isBlank h, isWord_eq_false_of_isBlank isBlank_space]
  · rw [plain, if_neg h]

theorem fixes_plain {x : CodePoint} (hx : x.isBlank = false) : x.Fixes plain := by
  intro c
  constructor
  · rintro rfl
    rw [isBlank_plain] at hx
    exact (plain_of_not_isBlank hx).symm
  · rintro rfl
    exact plain_of_not_isBlank hx

end CodePoint

def CharClass.layoutFree : CharClass → Bool
  | .point c => !c.isBlank
  | .word | .blank => true
  | .range _ _ | .decimal => false

def CharSet.layoutFree (s : CharSet) : Bool := s.classes.all CharClass.layoutFree

/-- Whether a pattern names no blank, no line feed and no end of a line. -/
def Pattern.layoutFree : Pattern → Bool
  | .lit t => t.all (!·.isBlank)
  | .one s | .many s _ _ | .notAfter s => s.layoutFree
  | .seq p q | .alt p q => p.layoutFree && q.layoutFree
  | .star p | .ahead p | .notAhead p => p.layoutFree
  | .wordEdge => true
  | .lineStart | .lineEnd => false

theorem CharClass.ignores_plain {k : CharClass} (h : k.layoutFree = true) :
    k.Ignores CodePoint.plain := by
  cases k with
  | point x => exact ignores_point (CodePoint.fixes_plain (by simpa [layoutFree] using h))
  | word => exact CodePoint.isWord_plain
  | blank => exact CodePoint.isBlank_plain
  | range _ _ => exact absurd h Bool.false_ne_true
  | decimal => exact absurd h Bool.false_ne_true

theorem CharSet.ignores_plain {s : CharSet} (h : s.layoutFree = true) :
    s.Ignores CodePoint.plain :=
  ignores_of_classes fun k hk => CharClass.ignores_plain (List.all_eq_true.mp h k hk)

namespace Pattern

variable {p : Pattern}

theorem ignores_plain (h : p.layoutFree = true) : p.Ignores CodePoint.plain := by
  induction p with
  | lit t =>
    intro x hx
    have := List.all_eq_true.mp h x hx
    exact CodePoint.fixes_plain (by simpa using this)
  | one s => exact CharSet.ignores_plain h
  | many s _ _ => exact CharSet.ignores_plain h
  | notAfter s => exact CharSet.ignores_plain h
  | seq p q ihp ihq =>
    obtain ⟨hp, hq⟩ := Bool.and_eq_true_iff.mp h
    exact ⟨ihp hp, ihq hq⟩
  | alt p q ihp ihq =>
    obtain ⟨hp, hq⟩ := Bool.and_eq_true_iff.mp h
    exact ⟨ihp hp, ihq hq⟩
  | star p ih => exact ih h
  | ahead p ih => exact ih h
  | notAhead p ih => exact ih h
  | wordEdge => exact CodePoint.isWord_plain
  | lineStart => exact absurd h Bool.false_ne_true
  | lineEnd => exact absurd h Bool.false_ne_true

theorem count_plain (h : p.layoutFree = true) (t : Text) : p.count t.plain = p.count t :=
  count_rename (ignores_plain h) t

end Pattern

theorem Metric.measure_plain {table : List Metric}
    (h : ∀ m ∈ table, m.pattern.layoutFree = true) (t : Text) :
    measure table t.plain = measure table t :=
  List.map_congr_left fun m hm => congrArg _ (Pattern.count_plain (h m hm) t)

theorem Text.head?_plain_of_isMark {x : CodePoint} (hx : IsMark x) (t : Text) :
    t.plain.head? = some x ↔ t.head? = some x :=
  (CodePoint.fixes_plain (isBlank_of_isMark hx)).head?_eq_iff t

namespace LoopToken

theorem atFront_plain (t : Text) : atFront t.plain = atFront t := by
  simp only [atFront, Text.head?_plain_of_isMark isMark_opening,
    Text.head?_plain_of_isMark isMark_closing, Text.head?_plain_of_isMark isMark_semicolon]

theorem scan_plain {loop : Pattern} (h : loop.layoutFree = true) (t : Text) :
    scan loop t.plain = scan loop t := by
  have htokens : (Pattern.alt loop punctuation).layoutFree = true :=
    Bool.and_eq_true_iff.mpr ⟨h, by decide⟩
  rw [scan, Text.plain, Pattern.starts_rename (Pattern.ignores_plain htokens), List.map_map]
  exact List.map_congr_left fun c _ => atFront_plain c.rest

end LoopToken

namespace CallToken

theorem firstWord_plain (t : Text) : firstWord t.plain = firstWord t := by
  induction t with
  | nil => rfl
  | cons c t ih =>
    rw [firstWord, Text.plain, List.map_cons, firstWord]
    by_cases hc : c.isWord = true
    · rw [List.takeWhile_cons_of_pos hc,
        List.takeWhile_cons_of_pos ((CodePoint.isWord_plain c).trans hc),
        CodePoint.plain_of_not_isBlank (isBlank_of_isWord hc)]
      exact congrArg _ ih
    · rw [List.takeWhile_cons_of_neg hc, List.takeWhile_cons_of_neg]
      rwa [CodePoint.isWord_plain]

theorem afterFirstWord_plain (t : Text) : afterFirstWord t.plain = (afterFirstWord t).plain := by
  have hword : CodePoint.isWord ∘ CodePoint.plain = CodePoint.isWord :=
    funext CodePoint.isWord_plain
  have hblank : CodePoint.isBlank ∘ CodePoint.plain = CodePoint.isBlank :=
    funext CodePoint.isBlank_plain
  rw [afterFirstWord, Text.plain, List.dropWhile_map, List.dropWhile_map, hword, hblank]
  rfl

theorem ofCursor_plain (c : Cursor) : ofCursor (c.rename CodePoint.plain) = ofCursor c := by
  have hheader : Pattern.functionHeader.end? (c.rename CodePoint.plain) =
      (Pattern.functionHeader.end? c).map (Cursor.rename CodePoint.plain) :=
    Pattern.end?_rename (Pattern.ignores_plain (by decide)) c
  have hrest : (c.rename CodePoint.plain).rest = c.rest.plain := rfl
  simp only [ofCursor, hrest, hheader, Option.isSome_map, Text.head?_plain_of_isMark isMark_opening,
    Text.head?_plain_of_isMark isMark_closing, Text.head?_plain_of_isMark isMark_semicolon,
    firstWord_plain, afterFirstWord_plain]

theorem scan_plain (t : Text) : scan t.plain = scan t := by
  rw [scan, Text.plain, Pattern.starts_rename (Pattern.ignores_plain (by decide)),
    List.map_map]
  exact List.map_congr_left fun c _ => ofCursor_plain c

end CallToken

theorem nestedLoops_plain {loop : Pattern} (h : loop.layoutFree = true) (t : Text) :
    nestedLoops loop t.plain = nestedLoops loop t := by
  rw [nestedLoops, LoopToken.scan_plain h, nestedLoops]

theorem recursiveFunctions_plain (t : Text) :
    recursiveFunctions t.plain = recursiveFunctions t := by
  rw [recursiveFunctions, CallToken.scan_plain, recursiveFunctions]

theorem Complexity.measure_plain (t : Text) : measure t.plain = measure t := by
  have htable : ∀ m ∈ metrics, m.pattern.layoutFree = true := by decide
  rw [measure, Metric.measure_plain htable, nestedLoops_plain (by decide),
    recursiveFunctions_plain, measure]

/-- Texts that differ in their blanks only have the same figures of running time, the same nested
loops over items and the same class. -/
theorem complexity_of_respaced {A B : Text} (h : A.Respaced B) :
    Complexity.measure A = Complexity.measure B ∧
    nestedLoops .forLoop A = nestedLoops .forLoop B ∧
    (Complexity.estimate (Complexity.measure A)).label =
      (Complexity.estimate (Complexity.measure B)).label := by
  have hmeasure : Complexity.measure A = Complexity.measure B := by
    rw [← Complexity.measure_plain A, h.plain_eq, Complexity.measure_plain]
  have hloops : nestedLoops .forLoop A = nestedLoops .forLoop B := by
    have hfor : Pattern.forLoop.layoutFree = true := by decide +kernel
    rw [← nestedLoops_plain hfor A, h.plain_eq, nestedLoops_plain hfor]
  exact ⟨hmeasure, hloops, by rw [hmeasure]⟩

/-- Line feeds, a tab and a space against a line separator, a space that does not break and more. -/
theorem complexity_of_respaced_lines :
    Text.Respaced "for (a)\n\x7b while\t(b) c;\n\x7d"
        "for\u00a0(a)\u2028\x7b\x1cwhile (b)\x0bc;\u3000\x7d" ∧
      Complexity.measure "for (a)\n\x7b while\t(b) c;\n\x7d" =
        Complexity.measure "for\u00a0(a)\u2028\x7b\x1cwhile (b)\x0bc;\u3000\x7d" := by
  have h : Text.Respaced "for (a)\n\x7b while\t(b) c;\n\x7d"
      "for\u00a0(a)\u2028\x7b\x1cwhile (b)\x0bc;\u3000\x7d" := by decide +kernel
  exact ⟨h, (complexity_of_respaced h).1⟩

end ZigAdvisor
