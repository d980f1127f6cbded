import ZigAdvisor.Proofs.Flow.Braces
import ZigAdvisor.Proofs.Flow.CallScan

/-!
# A balanced text in front of another one

A text with balanced braces that ends with one is scanned apart from what follows, and leaves the
scanners at depth zero with no body open. So what follows it is measured as if it stood alone,
unless the header of a loop or of a function is left open: its body may then begin in the other
text.
-/

namespace ZigAdvisor

open Text Pattern

variable {s t A B : Text} {before last : Option CodePoint} {keywords : List String}

namespace LoopNesting

def read (s : LoopNesting) (m : Text) : LoopNesting := s.step (LoopToken.atFront m)

theorem foldl_read (found : List Text) (s : LoopNesting) :
    found.foldl read s = (found.map LoopToken.atFront).foldl step s := by
  rw [List.foldl_map]
  rfl

theorem keepsDepth : KeepsDepth read depth bodies where
  opening s := by
    refine ⟨rfl, ?_⟩
    cases hw : s.waiting with
    | true => exact Or.inr (if_pos hw)
    | false => exact Or.inl (if_neg (by simp [hw]))
  closing s := ⟨rfl, rfl⟩
  other s m hopen hclose := by
    have hne (c : CodePoint) (hc : c ∉ m) : m.head? ≠ some c := fun h => hc (List.mem_of_head? h)
    simp only [read, LoopToken.atFront, if_neg (hne _ hopen), if_neg (hne _ hclose)]
    split_ifs
    · exact ⟨rfl, rfl⟩
    · exact ⟨rfl, rfl⟩

theorem waits (hk : AreWords keywords) :
    Waits (loopTokens keywords) (loopHeader keywords) read waiting where
  header s before m rest h := by
    rw [read, LoopToken.atFront_header ((spans_loopHeader hk).mp h).2]
    rfl
  ended s := ⟨rfl, rfl⟩
  other s before m rest h hheader hopen hend := by
    rcases (spans_loopTokens hk).mp h with hspan | ⟨c, hc, rfl⟩
    · exact absurd ((spans_loopHeader hk).mpr hspan) hheader
    · rcases hc.cases with rfl | rfl | rfl
      · exact absurd List.mem_cons_self hopen
      · rfl
      · exact absurd List.mem_cons_self hend

/-- Loops found before only add to those found after. -/
theorem foldl_step_add (ts : List LoopToken) (s : LoopNesting) (n : Nat) :
    (ts.foldl step { s with nested := n + s.nested }).nested = n + (ts.foldl step s).nested := by
  induction ts generalizing s with
  | nil => rfl
  | cons t ts ih =>
    have hstep : LoopNesting.step { s with nested := n + s.nested } t =
        { s.step t with nested := n + (s.step t).nested } := by
      cases t with
      | header =>
        simp only [step]
        split_ifs <;> rfl
      | opening | closing | terminator => rfl
    rw [List.foldl_cons, hstep, ih, List.foldl_cons]

/-- Behind a balanced text nothing is open but perhaps a header. -/
theorem run_balanced (hk : AreWords keywords) (h : Balanced 0 t) :
    ∃ waiting, run (LoopToken.scan (loopHeader keywords) t) =
        ⟨nestedLoops (loopHeader keywords) t, 0, [], waiting⟩ ∧
      (waiting = true ↔ (loopHeader keywords).LeftOpen none t) := by
  obtain ⟨found, hfound⟩ := LoopToken.exists_scans hk t
  obtain ⟨hdepth, hbodies⟩ := keepsDepth.settle (s := start) (tokens_loop hk) hfound h .nil
  have hwaiting := (waits hk).iff_leftOpen (s := start) (tokens_loop hk) (lexical_loopHeader hk)
    (within_loopTokens hk) hfound
  rw [foldl_read, ← LoopToken.scan_eq hk hfound] at hdepth hbodies hwaiting
  refine ⟨_, ?_, hwaiting.trans (or_iff_right (by simp [start]))⟩
  rw [nestedLoops, run, ← hdepth, ← hbodies]

end LoopNesting

theorem LoopToken.scan_append (hk : AreWords keywords) (hend : A.getLast? = some ('}' : CodePoint))
    (B : Text) : scan (loopHeader keywords) (A ++ B) =
      scan (loopHeader keywords) A ++ scan (loopHeader keywords) B := by
  obtain ⟨xs, hxs⟩ := exists_scans hk A
  obtain ⟨ys, hys⟩ := exists_scans hk B
  obtain ⟨last, h⟩ := (tokens_loop hk).scans_append isMark_closing hend hxs hys
  rw [scan_eq hk h, scan_eq hk hxs, scan_eq hk hys, List.map_append]

/-- Behind a balanced text loops are found as from the state that it leaves. -/
theorem nestedLoops_append (hk : AreWords keywords) (hA : Balanced 0 A)
    (hend : A.getLast? = some ('}' : CodePoint)) :
    ∃ waiting, (waiting = true ↔ (loopHeader keywords).LeftOpen none A) ∧
      ∀ B, nestedLoops (loopHeader keywords) (A ++ B) = nestedLoops (loopHeader keywords) A +
        ((LoopToken.scan (loopHeader keywords) B).foldl LoopNesting.step
          ⟨0, 0, [], waiting⟩).nested := by
  obtain ⟨waiting, hrun, hwaiting⟩ := LoopNesting.run_balanced hk hA
  refine ⟨waiting, hwaiting, fun B => ?_⟩
  rw [← LoopNesting.foldl_step_add, Nat.add_zero, ← hrun, nestedLoops, LoopNesting.run,
    LoopToken.scan_append hk hend, List.foldl_append]
  rfl

namespace SelfCalls

def read (s : SelfCalls) (m : Text) : SelfCalls := s.step (CallToken.ofMatch m)

theorem foldl_read (found : List Text) (s : SelfCalls) :
    found.foldl read s = (found.map CallToken.ofMatch).foldl step s := by
  rw [List.foldl_map]
  rfl

def depths (s : SelfCalls) : List Nat := s.bodies.map OpenBody.depth

theorem step_call (s : SelfCalls) (name : Text) : (s.step (.call name)).depth = s.depth ∧
    (s.step (.call name)).depths = s.depths ∧ (s.step (.call name)).pending = s.pending := by
  obtain ⟨found, depth, bodies, pending⟩ := s
  cases bodies with
  | nil => exact ⟨rfl, rfl, rfl⟩
  | cons body outer =>
    simp only [step, depths]
    split_ifs
    · exact ⟨rfl, rfl, rfl⟩
    · exact ⟨rfl, rfl, rfl⟩

theorem keepsDepth : KeepsDepth read depth depths where
  opening s := by
    refine ⟨rfl, ?_⟩
    cases hp : s.pending with
    | some name =>
      exact Or.inr (by simp [read, step, CallToken.ofMatch, CallToken.ofCursor, depths, hp])
    | none =>
      exact Or.inl (by simp [read, step, CallToken.ofMatch, CallToken.ofCursor, depths, hp])
  closing s := ⟨rfl, by
    rw [depths, depths, List.dropWhile_map]
    rfl⟩
  other s m hopen hclose := by
    have hne (c : CodePoint) (hc : c ∉ m) : m.head? ≠ some c := fun h => hc (List.mem_of_head? h)
    simp only [read, CallToken.ofMatch, CallToken.ofCursor, if_neg (hne _ hopen),
      if_neg (hne _ hclose)]
    split_ifs
    · exact ⟨rfl, rfl⟩
    · exact ⟨rfl, rfl⟩
    · exact ⟨(step_call s _).1, (step_call s _).2.1⟩

theorem waits : Waits callTokens functionHeader read fun s => s.pending.isSome where
  header s before m rest h := by
    obtain ⟨-, name, hname⟩ := spans_functionHeader.mp h
    rw [read, CallToken.ofMatch_function hname]
    rfl
  ended s := ⟨rfl, rfl⟩
  other s before m rest h hheader hopen hend := by
    rcases tokens_call.spans_iff.mp h with ⟨hbefore, ⟨name, hm⟩ | ⟨name, hm⟩⟩ | ⟨c, hc, rfl⟩
    · exact absurd (spans_functionHeader.mpr ⟨hbefore, name, hm⟩) hheader
    · rw [read, CallToken.ofMatch_call hm, (step_call s name).2.2]
    · rcases hc.cases with rfl | rfl | rfl
      · exact absurd List.mem_cons_self hopen
      · rfl
      · exact absurd List.mem_cons_self hend

/-- The function that waits for its body has a name. -/
theorem isName_pending {found : List Text} {rest : Text} {s : SelfCalls}
    (h : Scans callTokens before t found last rest) (hs : ∀ name ∈ s.pending, IsName name) :
    ∀ name ∈ (found.foldl read s).pending, IsName name := by
  induction h generalizing s with
  | done => exact hs
  | passed _ _ ih => exact ih hs
  | found spans _ ih =>
    refine ih ?_
    rcases tokens_call.spans_iff.mp spans with ⟨-, ⟨name, hm⟩ | ⟨name, hm⟩⟩ | ⟨c, hc, rfl⟩
    · rw [read, CallToken.ofMatch_function hm]
      intro n hn
      obtain rfl := Option.some.inj hn
      exact hm.isName
    · rwa [read, CallToken.ofMatch_call hm, (step_call s name).2.2]
    · rcases hc.cases with rfl | rfl | rfl
      · exact fun name hname => absurd hname (Option.not_mem_none name)
      · exact hs
      · exact fun name hname => absurd hname (Option.not_mem_none name)

/-- Functions found before only add to those found after. -/
theorem foldl_step_add (ts : List CallToken) (s : SelfCalls) (n : Nat) :
    (ts.foldl step { s with found := n + s.found }).found = n + (ts.foldl step s).found := by
  induction ts generalizing s with
  | nil => rfl
  | cons t ts ih =>
    have hstep : SelfCalls.step { s with found := n + s.found } t =
        { s.step t with found := n + (s.step t).found } := by
      cases t with
      | call name =>
        obtain ⟨found, depth, bodies, pending⟩ := s
        cases bodies with
        | nil => rfl
        | cons body outer =>
          simp only [step]
          split_ifs <;> rfl
      | function | opening | closing | terminator => rfl
    rw [List.foldl_cons, hstep, ih, List.foldl_cons]

/-- Behind a balanced text nothing is open but perhaps the header of a function with a name. -/
theorem run_balanced (h : Balanced 0 t) :
    ∃ pending : Option Text, run (CallToken.scan t) = ⟨recursiveFunctions t, 0, [], pending⟩ ∧
      (pending.isSome ↔ functionHeader.LeftOpen none t) ∧ ∀ name ∈ pending, IsName name := by
  obtain ⟨found, hfound⟩ := tokens_call.lexical.exists_scans none t
  obtain ⟨hdepth, hbodies⟩ := keepsDepth.settle (s := start) tokens_call hfound h .nil
  have hpending := waits.iff_leftOpen (s := start) tokens_call lexical_functionHeader
    within_callTokens hfound
  have hname := isName_pending (s := start) hfound (by simp [start])
  rw [foldl_read, ← CallToken.scan_eq hfound] at hdepth hbodies hpending hname
  refine ⟨_, ?_, hpending.trans (or_iff_right (by simp [start])), hname⟩
  rw [recursiveFunctions, run, ← hdepth, ← List.map_eq_nil_iff.mp hbodies]

end SelfCalls

theorem CallToken.scan_append (hend : A.getLast? = some ('}' : CodePoint)) (B : Text) :
    scan (A ++ B) = scan A ++ scan B := by
  obtain ⟨xs, hxs⟩ := tokens_call.lexical.exists_scans none A
  obtain ⟨ys, hys⟩ := tokens_call.lexical.exists_scans none B
  obtain ⟨last, h⟩ := tokens_call.scans_append isMark_closing hend hxs hys
  rw [scan_eq h, scan_eq hxs, scan_eq hys, List.map_append]

/-- Behind a balanced text functions are found as from the state that it leaves. -/
theorem recursiveFunctions_append (hA : Balanced 0 A)
    (hend : A.getLast? = some ('}' : CodePoint)) :
    ∃ pending : Option Text, (pending.isSome ↔ functionHeader.LeftOpen none A) ∧
      (∀ name ∈ pending, IsName name) ∧
      ∀ B, recursiveFunctions (A ++ B) = recursiveFunctions A +
        ((CallToken.scan B).foldl SelfCalls.step ⟨0, 0, [], pending⟩).found := by
  obtain ⟨pending, hrun, hpending, hname⟩ := SelfCalls.run_balanced hA
  refine ⟨pending, hpending, hname, fun B => ?_⟩
  rw [← SelfCalls.foldl_step_add, Nat.add_zero, ← hrun, recursiveFunctions, SelfCalls.run,
    CallToken.scan_append hend, List.foldl_append]
  rfl

/-- The body of a function that begins with a call of a name. -/
theorem CallToken.scan_body {name : Text} (h : IsName name) :
    scan (('{' : CodePoint) :: (name ++ [('(' : CodePoint)])) = [opening, call name] := by
  have hcall : IsCall name (name ++ [('(' : CodePoint)]) := ⟨h, [], by simp, rfl⟩
  have hbefore : ¬ AfterWord (some ('{' : CodePoint)) := not_afterWord_some (by decide)
  have hspan : callTokens.Spans (some ('{' : CodePoint)) (name ++ [('(' : CodePoint)]) [] :=
    tokens_call.spans_iff.mpr (Or.inl ⟨hbefore, Or.inr ⟨name, hcall⟩⟩)
  have hscan : Scans callTokens none ([('{' : CodePoint)] ++ ((name ++ [('(' : CodePoint)]) ++ []))
      [[('{' : CodePoint)], name ++ [('(' : CodePoint)]] (some ('(' : CodePoint)) [] :=
    .found (tokens_call.spans_mark isMark_opening)
      (.found hspan (by rw [lastOr_concat]; exact .done))
  rw [List.append_nil] at hscan
  rw [← List.singleton_append, scan_eq hscan, List.map_cons, List.map_singleton, ofMatch_call hcall]
  rfl

/-- A balanced text that ends with a brace does not change how what follows it is measured, whatever
follows, exactly if it leaves no header open. -/
theorem append_additive_iff_not_leftOpen (hA : Balanced 0 A)
    (hend : A.getLast? = some ('}' : CodePoint)) :
    ((∀ B, nestedLoops .anyLoop (A ++ B) = nestedLoops .anyLoop A + nestedLoops .anyLoop B) ↔
      ¬ anyLoop.LeftOpen none A) ∧
    ((∀ B, recursiveFunctions (A ++ B) = recursiveFunctions A + recursiveFunctions B) ↔
      ¬ functionHeader.LeftOpen none A) := by
  constructor
  · obtain ⟨waiting, hwaiting, hrun⟩ := nestedLoops_append areWords_loop hA hend
    constructor
    · intro hadd hopen
      obtain rfl := hwaiting.mpr hopen
      have hnested : ((LoopToken.scan anyLoop "for(").foldl LoopNesting.step
          ⟨0, 0, [], true⟩).nested = 1 := by decide +kernel
      have halone : nestedLoops .anyLoop "for(" = 0 := by decide +kernel
      have htogether := (hrun "for(").symm.trans (hadd "for(")
      rw [halone] at htogether
      have := hnested.symm.trans (Nat.add_left_cancel htogether)
      omega
    · intro hclosed B
      obtain rfl : waiting = false := Bool.eq_false_iff.mpr fun h => hclosed (hwaiting.mp h)
      exact hrun B
  · obtain ⟨pending, hpending, hname, hrun⟩ := recursiveFunctions_append hA hend
    constructor
    · intro hadd hopen
      obtain ⟨name, rfl⟩ := Option.isSome_iff_exists.mp (hpending.mpr hopen)
      have hbody := CallToken.scan_body (hname name rfl)
      have htogether :=
        (hrun _).symm.trans (hadd (('{' : CodePoint) :: (name ++ [('(' : CodePoint)])))
      have hcounts := Nat.add_left_cancel htogether
      rw [recursiveFunctions, hbody] at hcounts
      simp [SelfCalls.run, SelfCalls.step, SelfCalls.start] at hcounts
    · intro hclosed B
      obtain rfl : pending = none :=
        Option.not_isSome_iff_eq_none.mp fun h => hclosed (hpending.mp h)
      exact hrun B

theorem append_additive_iff_not_leftOpen_block : anyLoop.LeftOpen none "\x7bfor (a) b\x7d" := by
  by_contra h
  have hadd := (append_additive_iff_not_leftOpen (by decide) (by decide)).1.mpr h "for (c) d;"
  exact absurd hadd (by decide +kernel)

/-- A loop without braces at the end of a block is still open behind it, so the next loop seems to
be inside it. -/
theorem nestedLoops_append_ne : ∃ A B : Text, Balanced 0 A ∧
    A.getLast? = some ('}' : CodePoint) ∧
    nestedLoops .anyLoop (A ++ B) ≠ nestedLoops .anyLoop A + nestedLoops .anyLoop B := by
  refine ⟨"fn f() void \x7b switch (x) \x7b else => for (a) |b| g(b), \x7d \x7d",
    " fn h() void \x7b for (a) |b| \x7b g(b); \x7d \x7d", ?_, ?_, ?_⟩
  · decide +kernel
  · decide +kernel
  · decide +kernel

end ZigAdvisor
