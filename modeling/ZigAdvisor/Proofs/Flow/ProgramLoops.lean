import ZigAdvisor.Proofs.Flow.Complexity
import ZigAdvisor.Proofs.Flow.LoopScan
import ZigAdvisor.Proofs.Flow.Program
import ZigAdvisor.Proofs.Text.Lines

/-!
# Loops of a program

The tokens of a program are a header and a brace for each loop, a brace for each block, a closing
brace for both, and the semicolons of the statements (`Program.tokens`). Read by the three scanners
they give the number of loops, the number of loops inside loops, and without other blocks the height
of the nesting.
-/

namespace ZigAdvisor

open Text LoopToken

variable {before : Option CodePoint} {rest : Text} {p : Program}

namespace FreeText

theorem marks_eq_terminator (words : FreeText) : ∀ t ∈ marks words.text, t = terminator := by
  intro t ht
  obtain ⟨c, hc, rfl⟩ := List.mem_map.mp ht
  obtain ⟨hmem, hmark⟩ := List.mem_filter.mp hc
  rcases IsMark.cases (of_decide_eq_true hmark) with rfl | rfl | rfl
  · exact absurd hmem words.braceless.1
  · exact absurd hmem words.braceless.2
  · rfl

end FreeText

theorem BlockHead.marks_eq_nil (head : BlockHead) : marks head.text = [] := by
  rw [marks, List.map_eq_nil_iff, List.filter_eq_nil_iff]
  intro c hc hmark
  rcases IsMark.cases (of_decide_eq_true hmark) with rfl | rfl | rfl
  · exact head.braceless.1 hc
  · exact head.braceless.2 hc
  · exact head.unended hc

theorem LoopHead.isHeader_opening (head : LoopHead) : IsHeader loopKeywords head.opening := by
  refine ⟨head.keyword, head.isKeyword, areWords_loop _ head.isKeyword, [' '], by decide, ?_⟩
  simp only [opening, concat, List.flatten_cons, List.flatten_nil, List.append_nil]
  rfl

namespace Program

def tokens : Program → List LoopToken
  | done => []
  | loop _ _ body _ next => header :: opening :: (body.tokens ++ closing :: next.tokens)
  | block _ _ body _ next => opening :: (body.tokens ++ closing :: next.tokens)
  | statement _ words next => marks words.text ++ next.tokens

theorem not_afterWord_line {indent : Nat} {t : Text} :
    ¬ AfterWord (lastOr before (line indent t)) := by
  rw [line, lastOr_concat]
  exact not_afterWord_some (by decide)

theorem isWord_space : CodePoint.isWord (' ' : CodePoint) = false := by decide

theorem not_afterWord_indent (h : ¬ AfterWord before) (indent : Nat) :
    ¬ AfterWord (lastOr before (List.replicate indent (' ' : CodePoint))) := by
  cases indent with
  | zero => exact h
  | succ n =>
    rw [List.replicate_succ', lastOr_concat]
    exact not_afterWord_some isWord_space

theorem reads_indent (indent : Nat) :
    Reads loopKeywords before (List.replicate indent (' ' : CodePoint)) [] rest := by
  have hmarks : marks (List.replicate indent (' ' : CodePoint)) = [] := by
    rw [marks, List.map_eq_nil_iff, List.filter_eq_nil_iff]
    intro c hc
    rw [List.eq_of_mem_replicate hc]
    decide
  rw [← hmarks]
  exact .wordless areWords_loop fun c hc => by rw [List.eq_of_mem_replicate hc, isWord_space]

/-- A line has the tokens of what stands on it. -/
theorem reads_line {t : Text} {ts : List LoopToken} {indent : Nat} (hbefore : ¬ AfterWord before)
    (h : ∀ before, ¬ AfterWord before →
      Reads loopKeywords before t ts (('\n' : CodePoint) :: rest)) :
    Reads loopKeywords before (line indent t) ts rest := by
  have hfeed :
      Reads loopKeywords (lastOr before (indented indent t)) [('\n' : CodePoint)] [] rest :=
    .wordless areWords_loop (by decide)
  have htext := (reads_indent indent).append (h _ (not_afterWord_indent hbefore indent))
  simpa only [line, indented, List.nil_append, List.append_nil] using htext.append hfeed

theorem reads_statement (hbefore : ¬ AfterWord before) (indent : Nat) (words : FreeText) :
    Reads loopKeywords before (line indent words.text) (marks words.text) rest :=
  reads_line hbefore fun _ _ =>
    .plain areWords_loop words.plain (not_afterWord_some (by decide))

theorem reads_blockHead (head : BlockHead) :
    Reads loopKeywords before head.line [opening] rest := by
  have hbrace : Reads loopKeywords (lastOr before head.text) [('{' : CodePoint)] [opening] rest :=
    .wordless areWords_loop (by decide)
  have htext : Reads loopKeywords before head.text (marks head.text) (('{' : CodePoint) :: rest) :=
    .plain areWords_loop head.plain (not_afterWord_some (by decide))
  rw [head.marks_eq_nil] at htext
  exact htext.append hbrace

theorem reads_loopHead (hbefore : ¬ AfterWord before) (head : LoopHead) :
    Reads loopKeywords before head.line [header, opening] rest :=
  (Reads.header areWords_loop head.isHeader_opening hbefore).append
    (reads_blockHead head.toBlockHead)

theorem reads_foot (hbefore : ¬ AfterWord before) (indent : Nat) :
    Reads loopKeywords before (line indent ['}']) [closing] rest :=
  reads_line hbefore fun _ _ => .wordless areWords_loop (by decide)

theorem not_afterWord_render (h : ¬ AfterWord before) : ¬ AfterWord (lastOr before p.render) := by
  induction p generalizing before with
  | done => exact h
  | loop indent head body foot next hbody hnext
  | block indent head body foot next hbody hnext =>
    rw [render, lastOr_append, lastOr_append, lastOr_append]
    exact hnext not_afterWord_line
  | statement indent words next hnext =>
    rw [render, lastOr_append]
    exact hnext not_afterWord_line

/-- What stands behind the head of a loop or block: its body, its foot and the next items. -/
theorem reads_behind_head {body next : Program} {foot : Nat} (hbefore : ¬ AfterWord before)
    (hbody : ∀ {rest}, Reads loopKeywords before body.render body.tokens rest)
    (hnext : ∀ {before}, ¬ AfterWord before →
      Reads loopKeywords before next.render next.tokens rest) :
    Reads loopKeywords before (body.render ++ (line foot ['}'] ++ next.render))
      (body.tokens ++ closing :: next.tokens) rest :=
  hbody.append ((reads_foot (not_afterWord_render hbefore) foot).append
    (hnext not_afterWord_line))

/-- A program gives its tokens wherever no word ends in front of it. -/
theorem reads_render (hbefore : ¬ AfterWord before) :
    Reads loopKeywords before p.render p.tokens rest := by
  induction p generalizing before rest with
  | done => exact .nil
  | loop indent head body foot next hbody hnext =>
    exact (reads_line hbefore fun _ h => reads_loopHead h head).append
      (reads_behind_head not_afterWord_line (hbody not_afterWord_line) hnext)
  | block indent head body foot next hbody hnext =>
    exact (reads_line hbefore fun _ _ => reads_blockHead head).append
      (reads_behind_head not_afterWord_line (hbody not_afterWord_line) hnext)
  | statement indent words next hnext =>
    exact (reads_statement hbefore indent words).append (hnext not_afterWord_line)

theorem scan_render (p : Program) : scan .anyLoop p.render = p.tokens :=
  (reads_render (by simp [AfterWord])).scan areWords_loop

theorem count_header_tokens (p : Program) : p.tokens.count header = p.loops := by
  have hopening : opening ≠ header := by decide
  have hclosing : closing ≠ header := by decide
  induction p with
  | done => rfl
  | loop indent head body foot next hbody hnext =>
    rw [tokens, loops, List.count_cons_self, List.count_cons_of_ne hopening, List.count_append,
      List.count_cons_of_ne hclosing, hbody, hnext]
    omega
  | block indent head body foot next hbody hnext =>
    rw [tokens, loops, List.count_cons_of_ne hopening, List.count_append,
      List.count_cons_of_ne hclosing, hbody, hnext]
  | statement indent words next hnext =>
    have hmarks : (marks words.text).count header = 0 := by
      rw [List.count_eq_zero]
      intro h
      exact absurd (words.marks_eq_terminator _ h) (by decide)
    rw [tokens, loops, List.count_append, hmarks, hnext, Nat.zero_add]

theorem foldl_terminator {ts : List LoopToken} (h : ∀ t ∈ ts, t = terminator) {s : LoopNesting}
    (hs : s.waiting = false) : ts.foldl LoopNesting.step s = s := by
  induction ts with
  | nil => rfl
  | cons t ts ih =>
    obtain ⟨rfl, hts⟩ := List.forall_mem_cons.mp h
    have hstep : s.step terminator = s := by rw [LoopNesting.step, ← hs]
    rw [List.foldl_cons, hstep, ih hts]

theorem dropWhile_below {bodies : List Nat} {depth : Nat} (h : ∀ d ∈ bodies, d < depth) :
    bodies.dropWhile (depth ≤ ·) = bodies := by
  cases bodies with
  | nil => rfl
  | cons d bodies =>
    have hd := h d List.mem_cons_self
    exact List.dropWhile_cons_of_neg (by simpa using hd)

/-- Between items, a program adds its nested loops and leaves all else as it was. -/
theorem foldl_tokens (p : Program) (s : LoopNesting) (hs : s.waiting = false)
    (hbelow : ∀ d ∈ s.bodies, d < s.depth) :
    p.tokens.foldl LoopNesting.step s =
      { s with nested := s.nested + p.nested (!s.bodies.isEmpty) } := by
  induction p generalizing s with
  | done => rfl
  | loop indent head body foot next hbody hnext =>
    have hhead : (s.step header).step opening =
        ⟨s.nested + (!s.bodies.isEmpty).toNat, s.depth + 1, s.depth :: s.bodies, false⟩ := by
      cases hempty : s.bodies.isEmpty <;> simp [LoopNesting.step, hs, hempty]
    have hfoot (n : Nat) : (LoopNesting.mk n (s.depth + 1) (s.depth :: s.bodies) false).step
        closing = { s with nested := n } := by
      simp only [LoopNesting.step, Nat.add_sub_cancel, hs]
      rw [List.dropWhile_cons_of_pos (by simp), dropWhile_below hbelow]
    have hothers (n : Nat) := hnext ⟨n, s.depth, s.bodies, s.waiting⟩ hs hbelow
    have hdeeper : ∀ d ∈ s.depth :: s.bodies, d < s.depth + 1 := by
      intro d hd
      rcases List.mem_cons.mp hd with rfl | hd
      · omega
      · have := hbelow d hd
        omega
    rw [tokens, List.foldl_cons, List.foldl_cons, hhead, List.foldl_append, hbody _ rfl hdeeper,
      List.foldl_cons, hfoot, hothers]
    simp only [nested, Nat.add_assoc, List.isEmpty_cons, Bool.not_false]
  | block indent head body foot next hbody hnext =>
    have hhead : s.step opening = { s with depth := s.depth + 1 } := by
      simp [LoopNesting.step, hs]
    have hfoot (n : Nat) : (LoopNesting.mk n (s.depth + 1) s.bodies s.waiting).step closing =
        { s with nested := n } := by
      simp only [LoopNesting.step, Nat.add_sub_cancel]
      rw [dropWhile_below hbelow]
    have hothers (n : Nat) := hnext ⟨n, s.depth, s.bodies, s.waiting⟩ hs hbelow
    have hdeeper : ∀ d ∈ s.bodies, d < s.depth + 1 := fun d hd => (hbelow d hd).trans_le (by omega)
    rw [tokens, List.foldl_cons, hhead, List.foldl_append,
      hbody ⟨_, s.depth + 1, s.bodies, s.waiting⟩ hs hdeeper, List.foldl_cons, hfoot, hothers]
    simp only [nested, Nat.add_assoc]
  | statement indent words next hnext =>
    rw [tokens, List.foldl_append, foldl_terminator words.marks_eq_terminator hs, hnext s hs hbelow]
    rfl

theorem lines_line {indent : Nat} {t : Text} (h : ∀ c ∈ t, c.isLineBreak = false) :
    Text.lines (line indent t ++ rest) = indented indent t :: Text.lines rest := by
  rw [line, List.append_assoc]
  refine lines_append fun c hc => ?_
  rcases List.mem_append.mp hc with hc | hc
  · rw [List.eq_of_mem_replicate hc]
    decide
  · exact h c hc

theorem mem_indented {c : CodePoint} {indent : Nat} {t : Text} (hc : c ≠ ' ') :
    c ∈ indented indent t ↔ c ∈ t := by
  rw [indented, List.mem_append, or_iff_right fun h => hc (List.eq_of_mem_replicate h)]

theorem step_statement (current deepest indent : Nat) (words : FreeText) :
    (LoopDepth.mk current deepest).step (indented indent words.text) = ⟨current, deepest⟩ := by
  have hopens : (indented indent words.text).opensLoop = false :=
    opensLoop_eq_false fun h => words.braceless.1 ((mem_indented (by decide)).mp h)
  have hcloses : (indented indent words.text).closesBlock = false := by
    rw [closesBlock, List.any_eq_false]
    intro c hc hbrace
    rw [beq_iff_eq] at hbrace
    exact words.braceless.2 ((mem_indented (by decide)).mp (hbrace ▸ hc))
  rw [LoopDepth.step, hopens, hcloses]
  rfl

theorem step_foot (current deepest indent : Nat) :
    (LoopDepth.mk current deepest).step (indented indent ['}']) = ⟨current - 1, deepest⟩ := by
  have hopens : (indented indent ['}']).opensLoop = false :=
    opensLoop_eq_false fun h => absurd ((mem_indented (by decide)).mp h) (by decide)
  have hcloses : (indented indent ['}']).closesBlock = true := by
    simp [closesBlock, indented]
  rw [LoopDepth.step, hopens, hcloses]
  rfl

theorem step_loopHead (current deepest indent : Nat) (head : LoopHead) :
    (LoopDepth.mk current deepest).step (indented indent head.line) =
      ⟨current + 1, max deepest (current + 1)⟩ := by
  have hopens : (indented indent head.line).opensLoop = true := by
    refine opensLoop_of_hasWord head.isKeyword ⟨List.replicate indent (' ' : CodePoint),
      ofString " (" ++ head.toBlockHead.line, ?_, ?_, not_afterWord_some (by decide)⟩ ?_
    · simp only [indented, LoopHead.line, LoopHead.opening, concat, List.flatten_cons,
        List.flatten_nil, List.append_nil, List.append_assoc]
    · exact not_afterWord_indent (by simp [AfterWord]) indent
    · rw [indented, LoopHead.line, BlockHead.line, ← List.append_assoc, ← List.append_assoc,
        List.getLast?_concat]
  rw [LoopDepth.step, hopens]
  rfl

theorem LoopHead.oneLine_line (head : LoopHead) : ∀ c ∈ head.line, c.isLineBreak = false := by
  have hopening : ∀ k ∈ loopKeywords, ∀ c ∈ concat [ofString k, " ("], c.isLineBreak = false := by
    decide
  intro c hc
  rcases List.mem_append.mp hc with hc | hc
  · exact hopening head.keyword head.isKeyword c hc
  · rcases List.mem_append.mp hc with hc | hc
    · exact head.oneLine c hc
    · rw [List.mem_singleton.mp hc]
      decide

/-- Without other blocks, a program leaves the depth as it was and goes as deep as it is high. -/
theorem foldl_lines {p : Program} (h : p.BlockFree) {current deepest : Nat}
    (hle : current ≤ deepest) :
    (Text.lines (p.render ++ rest)).foldl LoopDepth.step ⟨current, deepest⟩ =
      (Text.lines rest).foldl LoopDepth.step ⟨current, max deepest (current + p.height)⟩ := by
  induction p generalizing current deepest rest with
  | done => rw [render, List.nil_append, height, Nat.add_zero, max_eq_left hle]
  | loop indent head body foot next hbody hnext =>
    simp only [render, List.append_assoc]
    rw [lines_line (LoopHead.oneLine_line head), List.foldl_cons, step_loopHead,
      hbody h.1 (by omega), lines_line (by decide), List.foldl_cons, step_foot, Nat.add_sub_cancel,
      hnext h.2 (by omega)]
    congr 2
    simp only [height]
    omega
  | block => exact h.elim
  | statement indent words next hnext =>
    rw [render, List.append_assoc, lines_line words.oneLine, List.foldl_cons, step_statement,
      hnext h hle, height]

end Program

/-- Every program is measured as it is built: the loops are counted, the loops that stand inside a
loop are found, and without blocks of other kinds the depth of loops is the height of the
nesting. -/
theorem loops_of_program (p : Program) :
    (Complexity.measure p.render).get "loops" = p.loops ∧
    nestedLoops .anyLoop p.render = p.nested false ∧
    (p.BlockFree → maxLoopDepth p.render = p.height) := by
  refine ⟨?_, ?_, fun h => ?_⟩
  · rw [Complexity.get_loops, ← p.count_header_tokens, ← p.scan_render]
    exact (count_header_scan areWords_loop _).symm
  · rw [nestedLoops, p.scan_render, LoopNesting.run,
      p.foldl_tokens _ rfl (by simp [LoopNesting.start])]
    simp [LoopNesting.start]
  · have hrun := @Program.foldl_lines [] p h 0 0 le_rfl
    rw [List.append_nil] at hrun
    rw [maxLoopDepth, LoopDepth.run, hrun, Nat.zero_add, Nat.zero_max]
    rfl

theorem loops_of_program_pair :
    maxLoopDepth (Program.loop 0 .each (.loop 4 .each .done 4 .done) 0 .done).render = 2 :=
  (loops_of_program _).2.2 ⟨⟨trivial, trivial⟩, trivial⟩

end ZigAdvisor
