import ZigAdvisor.Proofs.Flow.Juxtaposition
import ZigAdvisor.Proofs.Flow.OpenBodies
import ZigAdvisor.Proofs.Review.FileFigures

/-!
# Functions that call themselves in their own body

A call is in the own body of a function if the body is open there and no body of a function inside
it is (`CallToken.OwnBody`). The innermost open body that the scanner keeps is the only one of which
this is true, and it has lost its name exactly if its function was called there before
(`SelfCalls.keeps_run`). So each function that calls itself is counted once
(`recursiveFunctions_eq_card`).
-/

namespace ZigAdvisor

namespace CallToken

variable {xs u : List CallToken} {t : CallToken} {name : Text} {i : ℕ}

/-- Whether a function has no body behind some tokens and may get one there. -/
def Unended (xs : List CallToken) : Prop :=
  opening ∉ xs ∧ terminator ∉ xs ∧ ∀ name, function name ∉ xs

/-- The tokens behind the header of a function lead into its body: what stands in front of the body
does not end the header, and the brace that opens it is not matched. -/
structure Body (behind gap inside : List CallToken) : Prop where
  split : behind = gap ++ opening :: inside
  unended : Unended gap
  staysOpen : StaysOpen opening closing inside

theorem Body.concat {behind gap inside : List CallToken} (h : Body behind gap inside)
    (ht : t = closing → ¬ Paired opening closing inside) :
    Body (behind ++ [t]) gap (inside ++ [t]) where
  split := by rw [h.split, List.append_assoc, List.cons_append]
  unended := h.unended
  staysOpen := StaysOpen.concat_iff.mpr ⟨h.staysOpen, ht⟩

def InBody (xs : List CallToken) : Prop := ∃ before name behind gap inside,
  xs = before ++ function name :: behind ∧ Body behind gap inside

/-- Whether the tokens behind the header of a function lead into its body, and not into the body of
a function inside it. -/
def OwnBody (behind : List CallToken) : Prop :=
  ∃ gap inside, Body behind gap inside ∧ ¬ InBody inside

def CallsItself (name : Text) (behind : List CallToken) : Prop :=
  ∃ u v, behind = u ++ call name :: v ∧ OwnBody u

open scoped Classical in
noncomputable def recursiveHeaders (tokens : List CallToken) : Finset ℕ :=
  {i ∈ Finset.range tokens.length | ∃ before name behind,
    tokens = before ++ function name :: behind ∧ before.length = i ∧ CallsItself name behind}

theorem mem_recursiveHeaders : i ∈ recursiveHeaders xs ↔ ∃ before name behind,
    xs = before ++ function name :: behind ∧ before.length = i ∧ CallsItself name behind := by
  classical
  rw [recursiveHeaders, Finset.mem_filter, Finset.mem_range, and_iff_right_iff_imp]
  rintro ⟨before, name, behind, rfl, rfl, -⟩
  simp

theorem callsItself_concat_iff :
    CallsItself name (u ++ [t]) ↔ CallsItself name u ∨ (t = call name ∧ OwnBody u) := by
  constructor
  · rintro ⟨front, v, hu, hbody⟩
    rcases concat_eq_append_cons.mp hu with ⟨rfl, rfl, -⟩ | ⟨w, -, hw⟩
    · exact Or.inr ⟨rfl, hbody⟩
    · exact Or.inl ⟨front, w, hw, hbody⟩
  · rintro (⟨front, v, rfl, hbody⟩ | ⟨rfl, hbody⟩)
    · exact ⟨front, v ++ [t], by simp, hbody⟩
    · exact ⟨u, [], rfl, hbody⟩

theorem not_callsItself_nil : ¬ CallsItself name [] := by
  rintro ⟨u, v, h, -⟩
  simp at h

/-- A function that has just got its body has not called itself yet. -/
theorem not_callsItself_body {gap : List CallToken} (hgap : Unended gap) :
    ¬ CallsItself name (gap ++ [opening]) := by
  rw [callsItself_concat_iff]
  rintro (⟨u, v, rfl, front, inside, ⟨rfl, -, -⟩, -⟩ | ⟨h, -⟩)
  · exact hgap.1 (by simp)
  · exact absurd h (by simp)

/-- A call adds the function in whose own body it stands. -/
theorem mem_recursiveHeaders_concat : i ∈ recursiveHeaders (xs ++ [t]) ↔ i ∈ recursiveHeaders xs ∨
    ∃ before name behind, xs = before ++ function name :: behind ∧ before.length = i ∧
      t = call name ∧ OwnBody behind := by
  simp only [mem_recursiveHeaders]
  constructor
  · rintro ⟨before, name, behind, hxs, hi, hcalls⟩
    rcases concat_eq_append_cons.mp hxs with ⟨-, -, rfl⟩ | ⟨w, rfl, rfl⟩
    · exact absurd hcalls not_callsItself_nil
    · rcases callsItself_concat_iff.mp hcalls with hcalls | ⟨ht, hbody⟩
      · exact Or.inl ⟨before, name, w, rfl, hi, hcalls⟩
      · exact Or.inr ⟨before, name, w, rfl, hi, ht, hbody⟩
  · rintro (⟨before, name, behind, rfl, hi, hcalls⟩ | ⟨before, name, behind, rfl, hi, ht, hbody⟩)
    · exact ⟨before, name, behind ++ [t], by simp, hi, callsItself_concat_iff.mpr (Or.inl hcalls)⟩
    · exact ⟨before, name, behind ++ [t], by simp, hi,
        callsItself_concat_iff.mpr (Or.inr ⟨ht, hbody⟩)⟩

end CallToken

namespace SelfCalls

open CallToken

variable {xs before gap inside front : List CallToken} {s : SelfCalls} {name : Text} {d : ℕ}

theorem run_append (xs ys : List CallToken) : run (xs ++ ys) = ys.foldl step (run xs) :=
  List.foldl_append

theorem run_concat (xs : List CallToken) (t : CallToken) : run (xs ++ [t]) = (run xs).step t :=
  run_append xs [t]

theorem keepsBodies :
    KeepsBodies opening closing step depth depths fun s => s.pending.isSome = true where
  ne := by decide
  depth_opening _ := rfl
  body s h := by simp [step, depths, h]
  block s h := by simp [step, depths, h]
  depth_closing _ := rfl
  bodies_closing s := by
    rw [depths, depths, List.dropWhile_map]
    rfl
  other s t hopen hclose := by
    cases t with
    | function | terminator => exact ⟨rfl, rfl⟩
    | call name => exact ⟨(step_call s name).1, (step_call s name).2.1⟩
    | opening => exact absurd rfl hopen
    | closing => exact absurd rfl hclose

theorem awaitsBody (name : Text) : AwaitsBody step (fun s => s.pending = some name)
    (· = function name) (fun t => t = opening ∨ t = terminator ∨ ∃ g ≠ name, t = function g) where
  waits s t ht := by
    subst ht
    rfl
  ended s t ht := by
    rcases ht with rfl | rfl | ⟨g, hg, rfl⟩
    · exact Option.some_ne_none name ∘ Eq.symm
    · exact Option.some_ne_none name ∘ Eq.symm
    · exact fun h => hg (Option.some.inj h)
  other s t hheader hends := by
    cases t with
    | function g =>
      have hg : g ≠ name := fun h => hheader (h ▸ rfl)
      exact absurd (Or.inr (Or.inr ⟨g, hg, rfl⟩)) hends
    | call g => rw [(step_call s g).2.2]
    | opening => exact absurd (Or.inl rfl) hends
    | closing => exact Iff.rfl
    | terminator => exact absurd (Or.inr (Or.inl rfl)) hends

/-- The scanner waits for the body of a function that has none and may get one. -/
theorem pending_foldl_iff (hs : s.pending = none) : (xs.foldl step s).pending = some name ↔
    ∃ before gap, xs = before ++ function name :: gap ∧ Unended gap := by
  constructor
  · intro h
    have hstart : s.pending ≠ some name := by simp [hs]
    obtain ⟨before, t, gap, rfl, rfl, hgap⟩ := (awaitsBody name).exists_header hstart h
    refine ⟨before, gap, rfl, fun hopen => (hgap _ hopen).2 (Or.inl rfl),
      fun hend => (hgap _ hend).2 (Or.inr (Or.inl rfl)), fun g hg => ?_⟩
    by_cases hname : g = name
    · exact (hgap _ hg).1 (hname ▸ rfl)
    · exact (hgap _ hg).2 (Or.inr (Or.inr ⟨g, hname, rfl⟩))
  · rintro ⟨before, gap, rfl, hopen, hend, hfunction⟩
    apply (awaitsBody name).of_header rfl
    rintro x hx (rfl | rfl | ⟨g, -, rfl⟩)
    · exact hopen hx
    · exact hend hx
    · exact hfunction g hx

theorem pending_run (before : List CallToken) (name : Text) (hgap : Unended gap) :
    (run (before ++ function name :: gap)).pending = some name :=
  (pending_foldl_iff rfl).mpr ⟨before, gap, rfl, hgap⟩

theorem mem_depths_iff : d ∈ (run xs).depths ↔ ∃ front inside, xs = front ++ opening :: inside ∧
    StaysOpen opening closing inside ∧ (run front).pending.isSome = true ∧ (run front).depth = d :=
  keepsBodies.mem_bodies_iff rfl

/-- What is inside a brace leads into a body there if a deeper body is open. -/
theorem inBody_iff (front : List CallToken) (h : StaysOpen opening closing inside) :
    InBody inside ↔ ∃ d ∈ (run (front ++ opening :: inside)).depths, (run front).depth < d := by
  constructor
  · rintro ⟨before, name, behind, gap, inner, rfl, rfl, hgap, hinner⟩
    have hrow : front ++ opening :: (before ++ function name :: (gap ++ opening :: inner)) =
        (front ++ opening :: (before ++ function name :: gap)) ++ opening :: inner := by simp
    have hmiddle : StaysOpen opening closing (before ++ function name :: gap) := by
      apply StaysOpen.of_append (v := opening :: inner)
      simpa using h
    refine ⟨_, mem_depths_iff.mpr ⟨_, inner, hrow, hinner, ?_, rfl⟩,
      keepsBodies.depth_lt hmiddle front start⟩
    have hpending := pending_run (front ++ opening :: before) name hgap
    rw [List.append_assoc, List.cons_append] at hpending
    rw [hpending]
    rfl
  · rintro ⟨d, hd, hlt⟩
    obtain ⟨front', inner, hrow, hinner, hpending, rfl⟩ := mem_depths_iff.mp hd
    obtain ⟨y, rfl, rfl⟩ := (keepsBodies.depth_lt_iff hrow h hinner).mp hlt
    -- Nothing in front of the outer brace waits for the inner one.
    obtain ⟨name, hname⟩ := Option.isSome_iff_exists.mp hpending
    rw [run_append, List.foldl_cons] at hname
    obtain ⟨before, gap, rfl, hgap⟩ := (pending_foldl_iff rfl).mp hname
    exact ⟨before, name, gap ++ opening :: inner, gap, inner, by simp, rfl, hgap, hinner⟩

/-- Of the open bodies the deepest one is the own body of its function. -/
theorem ownBody_iff {behind : List CallToken} (hb : Body behind gap inside) :
    OwnBody behind ↔ ∀ d ∈ (run (before ++ function name :: behind)).depths,
      d ≤ (run (before ++ function name :: gap)).depth := by
  have hown : OwnBody behind ↔ ¬ InBody inside := by
    constructor
    · rintro ⟨gap', inside', hb', hin⟩
      rcases append_cons_cases (hb.split.symm.trans hb'.split) with rfl | ⟨y, rfl, -⟩ | ⟨y, rfl, -⟩
      · obtain rfl : inside = inside' := by simpa using hb.split.symm.trans hb'.split
        exact hin
      · exact absurd (by simp) hb'.unended.1
      · exact absurd (by simp) hb.unended.1
    · exact fun hin => ⟨gap, inside, hb, hin⟩
  obtain ⟨rfl, hgap, hstays⟩ := hb
  rw [hown, inBody_iff (before ++ function name :: gap) hstays]
  simp

theorem mem_depths_body {behind : List CallToken} (before : List CallToken) (name : Text)
    (hb : Body behind gap inside) :
    (run (before ++ function name :: gap)).depth ∈
      (run (before ++ function name :: behind)).depths := by
  obtain ⟨rfl, hgap, hstays⟩ := hb
  refine mem_depths_iff.mpr ⟨_, inside, by simp, hstays, ?_, rfl⟩
  rw [pending_run before name hgap]
  rfl

/-- Everywhere at most one function is in its own body. -/
theorem eq_of_ownBody {before' behind behind' : List CallToken} {name' : Text}
    (h : before ++ function name :: behind = before' ++ function name' :: behind')
    (hown : OwnBody behind) (hown' : OwnBody behind') : before = before' := by
  obtain ⟨gap, inside, hb, -⟩ := id hown
  obtain ⟨gap', inside', hb', -⟩ := id hown'
  have hle := (ownBody_iff hb').mp hown' _ (h ▸ mem_depths_body before name hb)
  have hle' := (ownBody_iff hb).mp hown _ (h ▸ mem_depths_body before' name' hb')
  have hfront : before ++ function name :: gap = before' ++ function name' :: gap' := by
    refine keepsBodies.eq_of_depth_eq (s := start) ?_ hb.staysOpen hb'.staysOpen
      (le_antisymm hle hle')
    rw [hb.split, hb'.split] at h
    simpa using h
  obtain rfl : name = name' := by
    have := pending_run before name hb.unended
    rw [hfront, pending_run before' name' hb'.unended] at this
    exact (Option.some.inj this).symm
  rcases append_cons_cases hfront with rfl | ⟨y, -, rfl⟩ | ⟨y, -, rfl⟩
  · rfl
  · exact absurd (by simp) (hb.unended.2.2 name)
  · exact absurd (by simp) (hb'.unended.2.2 name)

/-- An open body that the scanner keeps is that of a function, and it has the name of the function
until this calls itself. -/
def Keeps (xs : List CallToken) (body : OpenBody) : Prop := ∃ before name behind gap inside,
  xs = before ++ function name :: behind ∧ Body behind gap inside ∧
    (run (before ++ function name :: gap)).depth = body.depth ∧
      ∀ g, body.name = some g ↔ g = name ∧ ¬ CallsItself name behind

namespace Keeps

variable {t : CallToken} {body : OpenBody} {g : Text}

/-- A body that goes on to be open keeps its name, unless its function is called there. -/
theorem concat (h : Keeps xs body)
    (hclosing : t = closing → body.depth < (run xs).depth - 1)
    (hcall : ∀ g, t = call g → body.name = some g → ∃ d ∈ (run xs).depths, body.depth < d) :
    Keeps (xs ++ [t]) body := by
  obtain ⟨before, name, behind, gap, inside, rfl, hb, hdepth, hname⟩ := h
  have hown : body.name = some name → ¬ (t = call name ∧ OwnBody behind) := by
    rintro hbody ⟨ht, hown⟩
    obtain ⟨d, hd, hlt⟩ := hcall name ht hbody
    have hle := (ownBody_iff hb).mp hown d hd
    omega
  refine ⟨before, name, behind ++ [t], gap, inside ++ [t], by simp, hb.concat ?_, hdepth,
    fun g => ?_⟩
  · rintro rfl
    have hlt := hclosing rfl
    rw [← hdepth, hb.split, ← List.cons_append, ← List.append_assoc,
      run_append _ (opening :: inside)] at hlt
    exact (StaysOpen.concat_iff.mp ((keepsBodies.concat_closing_iff hb.staysOpen _).mpr hlt)).2 rfl
  · rw [hname, callsItself_concat_iff, not_or]
    constructor
    · rintro ⟨rfl, hcalls⟩
      exact ⟨rfl, hcalls, hown ((hname _).mpr ⟨rfl, hcalls⟩)⟩
    · rintro ⟨rfl, hcalls, -⟩
      exact ⟨rfl, hcalls⟩

/-- The body that a function gets has its name. -/
theorem opened (h : (run xs).pending = some g) :
    Keeps (xs ++ [opening]) ⟨some g, (run xs).depth⟩ := by
  obtain ⟨before, gap, rfl, hgap⟩ := (pending_foldl_iff rfl).mp h
  refine ⟨before, g, gap ++ [opening], gap, [], by simp, ⟨rfl, hgap, .nil⟩, rfl, fun g' => ?_⟩
  rw [and_iff_left (not_callsItself_body hgap), Option.some_inj, eq_comm]

/-- The innermost body loses its name where its function is called. -/
theorem called (h : Keeps xs body) (hname : body.name = some g)
    (hinner : ∀ d ∈ (run xs).depths, d ≤ body.depth) :
    Keeps (xs ++ [call g]) { body with name := none } := by
  obtain ⟨before, name, behind, gap, inside, rfl, hb, hdepth, hbody⟩ := h
  obtain ⟨rfl, -⟩ := (hbody g).mp hname
  have hcalls : CallsItself g (behind ++ [call g]) := by
    rw [← hdepth] at hinner
    exact callsItself_concat_iff.mpr (Or.inr ⟨rfl, (ownBody_iff hb).mpr hinner⟩)
  refine ⟨before, g, behind ++ [call g], gap, inside ++ [call g], by simp, hb.concat nofun, hdepth,
    fun g' => ?_⟩
  exact iff_of_false nofun fun h => h.2 hcalls

end Keeps

theorem step_call_of_ne {g : Text} (h : ∀ body ∈ s.bodies.head?, body.name ≠ some g) :
    s.step (call g) = s := by
  obtain ⟨found, depth, bodies, pending⟩ := s
  cases bodies with
  | nil => rfl
  | cons body outer => exact if_neg (h body rfl)

theorem falling_run (xs : List CallToken) : (run xs).depths.Pairwise (· > ·) :=
  (keepsBodies.stacked_run (s := start) rfl xs).falling

section Innermost

variable {innermost : OpenBody} {outer : List OpenBody}

/-- The scanner has the innermost body in front. -/
theorem depth_lt_innermost (h : (run xs).bodies = innermost :: outer) :
    ∀ body ∈ outer, body.depth < innermost.depth := by
  have hfalling := falling_run xs
  rw [depths, h, List.map_cons, List.pairwise_cons] at hfalling
  exact fun body hbody => hfalling.1 _ (List.mem_map_of_mem hbody)

theorem le_innermost (h : (run xs).bodies = innermost :: outer) :
    ∀ d ∈ (run xs).depths, d ≤ innermost.depth := by
  rw [depths, h, List.map_cons, List.forall_mem_cons, List.forall_mem_map]
  exact ⟨le_rfl, fun body hbody => (depth_lt_innermost h body hbody).le⟩

theorem step_call_innermost {g : Text} (h : s.bodies = innermost :: outer)
    (hname : innermost.name = some g) : s.step (call g) =
      { s with found := s.found + 1, bodies := { innermost with name := none } :: outer } := by
  obtain ⟨found, depth, bodies, pending⟩ := s
  obtain rfl : bodies = innermost :: outer := h
  exact if_pos hname

end Innermost

/-- A call can only change the innermost body, and only if it is a call of its function. -/
theorem keeps_call {g : Text} (h : ∀ body ∈ (run xs).bodies, Keeps xs body) :
    ∀ body ∈ ((run xs).step (call g)).bodies, Keeps (xs ++ [call g]) body := by
  cases hbodies : (run xs).bodies with
  | nil =>
    rw [step_call_of_ne (by simp [hbodies]), hbodies]
    exact List.forall_mem_nil _
  | cons innermost outer =>
    rw [hbodies, List.forall_mem_cons] at h
    have houter : ∀ body ∈ outer, Keeps (xs ++ [call g]) body := by
      intro body hbody
      refine (h.2 body hbody).concat (t := call g) nofun fun _ _ _ => ?_
      refine ⟨innermost.depth, ?_, depth_lt_innermost hbodies body hbody⟩
      exact List.mem_map_of_mem (hbodies ▸ List.mem_cons_self)
    by_cases hname : innermost.name = some g
    · rw [step_call_innermost hbodies hname, List.forall_mem_cons]
      exact ⟨h.1.called hname (le_innermost hbodies), houter⟩
    · rw [step_call_of_ne (by simpa [hbodies] using hname), hbodies, List.forall_mem_cons]
      refine ⟨h.1.concat nofun fun g' hg hbody => ?_, houter⟩
      obtain rfl := CallToken.call.inj hg
      exact absurd hbody hname

/-- The scanner keeps the open bodies. -/
theorem keeps_run (xs : List CallToken) : ∀ body ∈ (run xs).bodies, Keeps xs body := by
  induction xs using List.reverseRecOn with
  | nil => exact List.forall_mem_nil _
  | append_singleton xs t ih =>
    rw [run_concat]
    have hother (hclosing : t ≠ closing) (hcall : ∀ g, t ≠ call g) :
        ∀ body ∈ (run xs).bodies, Keeps (xs ++ [t]) body := fun body hbody =>
      (ih body hbody).concat (fun h => absurd h hclosing) fun g h => absurd h (hcall g)
    cases t with
    | function | terminator => exact hother nofun nofun
    | opening =>
      by_cases hwaiting : (run xs).pending.isSome = true
      · obtain ⟨name, hname⟩ := Option.isSome_iff_exists.mp hwaiting
        rw [show ((run xs).step opening).bodies =
          ⟨(run xs).pending, (run xs).depth⟩ :: (run xs).bodies from if_pos hwaiting,
          List.forall_mem_cons, hname]
        exact ⟨.opened hname, hother nofun nofun⟩
      · rw [show ((run xs).step opening).bodies = (run xs).bodies from if_neg hwaiting]
        exact hother nofun nofun
    | closing =>
      intro body hbody
      have hmem : body ∈ (run xs).bodies := (List.dropWhile_sublist _).subset hbody
      have hdepth : body.depth ∈ ((run xs).step closing).depths := List.mem_map_of_mem hbody
      rw [keepsBodies.bodies_closing, Stacked.dropWhile_eq_filter (falling_run xs),
        List.mem_filter, decide_eq_true_iff] at hdepth
      exact (ih body hmem).concat (fun _ => hdepth.2) nofun
    | call g => exact keeps_call ih

/-- A call adds the function in whose own body it stands, if it has its name. -/
theorem mem_recursiveHeaders_call {behind : List CallToken} {g : Text} {i : ℕ}
    (hown : OwnBody behind) :
    i ∈ recursiveHeaders (before ++ function name :: behind ++ [call g]) ↔
      i ∈ recursiveHeaders (before ++ function name :: behind) ∨
        (i = before.length ∧ g = name) := by
  rw [mem_recursiveHeaders_concat]
  refine or_congr_right ⟨?_, ?_⟩
  · rintro ⟨before', name', behind', h, rfl, hg, hown'⟩
    obtain rfl := eq_of_ownBody h hown hown'
    simp only [List.append_cancel_left_eq, List.cons.injEq, function.injEq] at h
    exact ⟨rfl, (call.inj hg).trans h.1.symm⟩
  · rintro ⟨rfl, rfl⟩
    exact ⟨before, g, behind, rfl, rfl, rfl, hown⟩

theorem length_mem_recursiveHeaders {behind : List CallToken} :
    before.length ∈ recursiveHeaders (before ++ function name :: behind) ↔
      CallsItself name behind := by
  rw [mem_recursiveHeaders]
  constructor
  · rintro ⟨before', name', behind', h, hlen, hcalls⟩
    obtain ⟨rfl, htail⟩ := List.append_inj h hlen.symm
    obtain ⟨hname, rfl⟩ := List.cons.inj htail
    rwa [function.inj hname]
  · exact fun hcalls => ⟨before, name, behind, rfl, rfl, hcalls⟩

/-- A token that is no call of the function in whose own body it stands adds none. -/
theorem recursiveHeaders_concat_eq {t : CallToken} (h : ∀ before name behind,
    xs = before ++ function name :: behind → t = call name → ¬ OwnBody behind) :
    recursiveHeaders (xs ++ [t]) = recursiveHeaders xs := by
  ext i
  rw [mem_recursiveHeaders_concat, or_iff_left]
  rintro ⟨before, name, behind, hxs, -, ht, hown⟩
  exact h before name behind hxs ht hown

/-- A call counts if it adds the function of the innermost body. -/
theorem found_call {g : Text} (h : (run xs).found = (recursiveHeaders xs).card) :
    ((run xs).step (call g)).found = (recursiveHeaders (xs ++ [call g])).card := by
  cases hbodies : (run xs).bodies with
  | nil =>
    rw [step_call_of_ne (by simp [hbodies]), recursiveHeaders_concat_eq, h]
    rintro before name behind rfl - ⟨gap, inside, hb, -⟩
    have hmem := mem_depths_body before name hb
    simp [depths, hbodies] at hmem
  | cons innermost outer =>
    obtain ⟨before, name, behind, gap, inside, rfl, hb, hdepth, hname⟩ :=
      keeps_run xs innermost (hbodies ▸ List.mem_cons_self)
    have hown : OwnBody behind := (ownBody_iff hb).mpr (hdepth ▸ le_innermost hbodies)
    by_cases hcounted : innermost.name = some g
    · obtain ⟨rfl, hcalls⟩ := (hname g).mp hcounted
      have hinsert : recursiveHeaders (before ++ function g :: behind ++ [call g]) =
          insert before.length (recursiveHeaders (before ++ function g :: behind)) := by
        ext i
        rw [mem_recursiveHeaders_call hown, Finset.mem_insert, and_iff_left rfl, or_comm]
      rw [step_call_innermost hbodies hcounted, hinsert, Finset.card_insert_of_notMem
        (length_mem_recursiveHeaders.not.mpr hcalls), h]
    · have hunchanged : recursiveHeaders (before ++ function name :: behind ++ [call g]) =
          recursiveHeaders (before ++ function name :: behind) := by
        ext i
        rw [mem_recursiveHeaders_call hown, or_iff_left_iff_imp]
        rintro ⟨rfl, rfl⟩
        rw [length_mem_recursiveHeaders]
        by_contra hcalls
        exact hcounted ((hname g).mpr ⟨rfl, hcalls⟩)
      rw [step_call_of_ne (by simpa [hbodies] using hcounted), hunchanged, h]

/-- A scan counts the functions that call themselves in their own body. -/
theorem found_run (xs : List CallToken) : (run xs).found = (recursiveHeaders xs).card := by
  induction xs using List.reverseRecOn with
  | nil => rfl
  | append_singleton xs t ih =>
    rw [run_concat]
    cases t with
    | function | opening | closing | terminator =>
      rw [recursiveHeaders_concat_eq (by rintro _ _ _ - ⟨⟩)]
      exact ih
    | call g => exact found_call ih

end SelfCalls

/-! ## Functions that call themselves among all functions -/

namespace CallToken

open Pattern

def isFunction : CallToken → Bool
  | function _ => true
  | _ => false

/-- The functions that call themselves are headers of functions. -/
theorem card_recursiveHeaders_le (xs : List CallToken) :
    (recursiveHeaders xs).card ≤ xs.countP isFunction := by
  have hplaces : ({i ∈ Finset.range xs.length | xs[i]?.any isFunction} : Finset ℕ).card =
      xs.countP isFunction := by
    induction xs using List.reverseRecOn with
    | nil => rfl
    | append_singleton xs t ih =>
      have hfront : ∀ i ∈ Finset.range xs.length,
          ((xs ++ [t])[i]?.any isFunction ↔ xs[i]?.any isFunction) := by
        intro i hi
        rw [List.getElem?_append_left (Finset.mem_range.mp hi)]
      rw [List.length_append, List.length_singleton, Finset.range_add_one, Finset.filter_insert,
        Finset.filter_congr hfront, List.getElem?_concat_length, List.countP_append, ← ih,
        List.countP_singleton, Option.any_some]
      by_cases ht : isFunction t
      · rw [if_pos ht, if_pos ht, Finset.card_insert_of_notMem (by simp)]
      · rw [if_neg ht, if_neg ht, Nat.add_zero]
  rw [← hplaces]
  apply Finset.card_le_card
  intro i hi
  obtain ⟨before, name, behind, rfl, rfl, -⟩ := mem_recursiveHeaders.mp hi
  simp [isFunction]

/-- As many functions are found among the tokens as by themselves. -/
theorem countP_isFunction_scan (t : Text) :
    (scan t).countP isFunction = functionHeader.count t := by
  classical
  obtain ⟨found, h⟩ := tokens_call.lexical.exists_scans none t
  have hkeep {before : Option CodePoint} {m rest : Text} (hm : callTokens.Spans before m rest) :
      isFunction (ofMatch m) = true ↔ functionHeader.Spans before m rest := by
    rw [spans_functionHeader]
    rcases tokens_call.spans_iff.mp hm with ⟨hbefore, ⟨name, hname⟩ | ⟨name, hname⟩⟩ | ⟨c, hc, rfl⟩
    · rw [ofMatch_function hname]
      exact iff_of_true rfl ⟨hbefore, name, hname⟩
    · rw [ofMatch_call hname]
      refine iff_of_false Bool.false_ne_true ?_
      rintro ⟨-, name', hname'⟩
      exact (hname'.ne_call hname : m ++ rest ≠ m ++ rest) rfl
    · have hno : ¬ ∃ name, IsFunction name [c] := fun ⟨name, hname⟩ =>
        hname.not_isMark c List.mem_cons_self hc
      refine iff_of_false ?_ fun h => hno h.2
      rcases hc.cases with rfl | rfl | rfl
      · exact Bool.false_ne_true
      · exact Bool.false_ne_true
      · exact Bool.false_ne_true
  have hheaders := h.filter tokens_call.lexical lexical_functionHeader within_callTokens hkeep
  rw [scan_eq h, hheaders.count_eq lexical_functionHeader, List.countP_map,
    List.countP_eq_length_filter]
  rfl

end CallToken

/-- The recursive functions of a text are those that are called by their name in their own body.
They are no more than the functions of the text. -/
theorem recursiveFunctions_eq_card (code : Text) :
    recursiveFunctions code = (CallToken.recursiveHeaders (CallToken.scan code)).card ∧
      recursiveFunctions code ≤ (FileMetrics.measure code).get "functions" := by
  have hcard := SelfCalls.found_run (CallToken.scan code)
  refine ⟨hcard, ?_⟩
  calc recursiveFunctions code
    _ = (CallToken.recursiveHeaders (CallToken.scan code)).card := hcard
    _ ≤ (CallToken.scan code).countP CallToken.isFunction := CallToken.card_recursiveHeaders_le _
    _ = Pattern.functionHeader.count code := CallToken.countP_isFunction_scan code
    _ = (FileMetrics.measure code).get "functions" := (FileMetrics.get_of_lookup rfl).symm

end ZigAdvisor
