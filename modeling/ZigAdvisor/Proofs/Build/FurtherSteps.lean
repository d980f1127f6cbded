import Mathlib.Data.List.Basic
import Mathlib.Data.List.Induction
import Mathlib.Logic.Relation
import Mathlib.Tactic.Common
import ZigAdvisor.Build.Script

/-!
# Further steps

The further steps can be found in one pass over the given names (`furtherSteps_eq_sift`): a name is
put at the end unless it is empty, standard or there already. So they stand in the order in which
they are first given (`pairwise_sift`), and an idle name, which would not be put anywhere, may be
given anywhere (`sift_of_padded`). Every list of names is that of its further steps, padded with
idle names (`padded_sift`).
-/

namespace ZigAdvisor

theorem Text.eraseDups_concat (names : List Text) (name : Text) : (names ++ [name]).eraseDups =
    if name ∈ names then names.eraseDups else names.eraseDups ++ [name] := by
  rw [List.eraseDups_append, List.removeAll]
  by_cases h : name ∈ names <;> simp [h, List.eraseDups_cons]

namespace BuildOptions

variable {found front back steps steps' : List Text} {s : Text}

/-- Whether a name is that of a further step: it is neither empty nor standard. -/
def IsFurther (s : Text) : Prop := s ≠ [] ∧ s ∉ standardSteps

instance (s : Text) : Decidable (IsFurther s) :=
  inferInstanceAs (Decidable (s ≠ [] ∧ s ∉ standardSteps))

theorem furtherSteps_eq (o : BuildOptions) :
    o.furtherSteps = (o.steps.filter (IsFurther ·)).eraseDups := by
  rw [furtherSteps]
  congr 2
  funext s
  rw [Bool.eq_iff_iff, decide_eq_true_eq]
  simp [IsFurther]

/-! ## One pass -/

def withStep (found : List Text) (s : Text) : List Text :=
  if IsFurther s ∧ s ∉ found then found ++ [s] else found

def sift (steps : List Text) : List Text := steps.foldl withStep []

theorem sift_append : sift (front ++ back) = back.foldl withStep (sift front) := List.foldl_append

theorem sift_concat : sift (steps ++ [s]) = withStep (sift steps) s := sift_append

theorem withStep_of_new (hfurther : IsFurther s) (hnew : s ∉ found) :
    withStep found s = found ++ [s] := if_pos ⟨hfurther, hnew⟩

theorem withStep_of_idle (h : IsFurther s → s ∈ found) : withStep found s = found :=
  if_neg fun hadd => hadd.2 (h hadd.1)

theorem furtherSteps_eq_sift (o : BuildOptions) : o.furtherSteps = sift o.steps := by
  rw [furtherSteps_eq]
  induction o.steps using List.reverseRecOn with
  | nil => rfl
  | append_singleton steps s ih =>
    rw [sift_concat, ← ih, List.filter_append]
    by_cases hfurther : IsFurther s
    · have hkept : [s].filter (IsFurther ·) = [s] :=
        List.filter_cons_of_pos (decide_eq_true hfurther)
      rw [hkept, Text.eraseDups_concat]
      split
      · next hfound => exact (withStep_of_idle fun _ => List.mem_eraseDups.mpr hfound).symm
      · next hnew => exact (withStep_of_new hfurther fun h => hnew (List.mem_eraseDups.mp h)).symm
    · have hdropped : [s].filter (IsFurther ·) = [] :=
        List.filter_cons_of_neg (mt of_decide_eq_true hfurther)
      rw [hdropped, List.append_nil, withStep_of_idle fun h => absurd h hfurther]

theorem mem_sift : s ∈ sift steps ↔ s ∈ steps ∧ IsFurther s := by
  have hsift := furtherSteps_eq_sift ⟨[], .debug, [], [], steps⟩
  rw [← hsift]
  exact mem_furtherSteps

/-- The steps stand in the order in which they are first given. -/
theorem pairwise_sift (steps : List Text) :
    (sift steps).Pairwise fun a b => steps.idxOf a < steps.idxOf b := by
  induction steps using List.reverseRecOn with
  | nil => exact List.Pairwise.nil
  | append_singleton steps s ih =>
    have hsame {a : Text} (ha : a ∈ sift steps) : (steps ++ [s]).idxOf a = steps.idxOf a :=
      List.idxOf_append_of_mem (mem_sift.mp ha).1
    have hbefore : (sift steps).Pairwise fun a b =>
        (steps ++ [s]).idxOf a < (steps ++ [s]).idxOf b :=
      ih.imp_of_mem fun ha hb hab => by rwa [hsame ha, hsame hb]
    rw [sift_concat, withStep]
    split
    · next hadd =>
      rw [List.pairwise_append]
      refine ⟨hbefore, List.pairwise_singleton _ _, ?_⟩
      intro a ha b hb
      -- A name is put at the end when it is given for the first time, behind all others.
      have hnew : s ∉ steps := fun h => hadd.2 (mem_sift.mpr ⟨h, hadd.1⟩)
      rw [List.mem_singleton.mp hb, hsame ha, List.idxOf_append_of_notMem hnew,
        List.idxOf_cons_self, Nat.add_zero]
      exact List.idxOf_lt_length_of_mem (mem_sift.mp ha).1
    · exact hbefore

theorem nodup_sift (steps : List Text) : (sift steps).Nodup :=
  (pairwise_sift steps).imp fun hlt => ne_of_apply_ne steps.idxOf (Nat.ne_of_lt hlt)

/-! ## Idle names -/

/-- Whether a name gives no step behind some others: it is empty, standard or one of them. -/
def IsIdle (front : List Text) (s : Text) : Prop := s = [] ∨ s ∈ standardSteps ∨ s ∈ front

instance (front : List Text) (s : Text) : Decidable (IsIdle front s) :=
  inferInstanceAs (Decidable (s = [] ∨ s ∈ standardSteps ∨ s ∈ front))

/-- The second list is the first one with an idle name put in. -/
inductive Pads : List Text → List Text → Prop
  | intro (front : List Text) {s : Text} (back : List Text) (idle : IsIdle front s) :
    Pads (front ++ back) (front ++ s :: back)

def Padded : List Text → List Text → Prop := Relation.ReflTransGen Pads

theorem isIdle_iff : IsIdle front s ↔ (IsFurther s → s ∈ front) := by
  simp only [IsIdle, IsFurther]
  tauto

theorem sift_of_pads (h : Pads steps steps') : sift steps' = sift steps := by
  obtain ⟨front, back, idle⟩ := h
  have hfound := fun hfurther => mem_sift.mpr ⟨isIdle_iff.mp idle hfurther, hfurther⟩
  rw [sift_append, sift_append, List.foldl_cons, withStep_of_idle hfound]

theorem sift_of_padded (h : Padded steps steps') : sift steps' = sift steps := by
  induction h with
  | refl => rfl
  | tail _ hpads ih => rw [sift_of_pads hpads, ih]

theorem Padded.concat (h : Padded steps steps') (s : Text) :
    Padded (steps ++ [s]) (steps' ++ [s]) := by
  refine h.lift (· ++ [s]) ?_
  rintro _ _ ⟨front, back, idle⟩
  simpa only [Function.onFun, List.append_assoc, List.cons_append] using
    Pads.intro front (back ++ [s]) idle

/-- Every list of names is that of its further steps, padded with idle names. -/
theorem padded_sift (steps : List Text) : Padded (sift steps) steps := by
  induction steps using List.reverseRecOn with
  | nil => exact .refl
  | append_singleton steps s ih =>
    rw [sift_concat, withStep]
    split
    · exact ih.concat s
    · next hadd =>
      have hidle : IsIdle steps s :=
        isIdle_iff.mpr fun hfurther => (mem_sift.mp (not_not.mp (not_and.mp hadd hfurther))).1
      have hlast : Pads steps (steps ++ [s]) := by
        simpa only [List.append_nil] using Pads.intro steps [] hidle
      exact ih.tail hlast

theorem sift_sift (steps : List Text) : sift (sift steps) = sift steps :=
  (sift_of_padded (padded_sift steps)).symm

end BuildOptions

namespace BuildScript

open BuildOptions

/-- A script is that of the further steps. -/
theorem generate_of_sift {o : BuildOptions} {steps : List Text} (h : sift steps = sift o.steps) :
    generate { o with steps := steps } = generate o := by
  have hfurther : BuildOptions.furtherSteps { o with steps := steps } = o.furtherSteps := by
    rw [furtherSteps_eq_sift, furtherSteps_eq_sift, h]
  have hsection : stepSection { o with steps := steps } = stepSection o := by
    rw [stepSection, stepSection, hfurther]
  rw [generate, generate, hsection]
  rfl

/-- The further steps are the given names that are neither empty nor standard, each once and in the
order in which they are first given. The script stays the same where idle names are put in, and
where the given names are replaced by the further steps. -/
theorem steps_of_first_given (o : BuildOptions) :
    o.furtherSteps.Nodup ∧
    (∀ s, s ∈ o.furtherSteps ↔ s ∈ o.steps ∧ s ≠ [] ∧ s ∉ standardSteps) ∧
    (o.furtherSteps.Pairwise fun a b => o.steps.idxOf a < o.steps.idxOf b) ∧
    (∀ steps, Padded o.steps steps → generate { o with steps := steps } = generate o) ∧
    generate { o with steps := o.furtherSteps } = generate o := by
  rw [furtherSteps_eq_sift]
  refine ⟨nodup_sift _, fun s => mem_sift, pairwise_sift _, ?_, ?_⟩
  · intro steps hpadded
    exact generate_of_sift (sift_of_padded hpadded)
  · exact generate_of_sift (sift_sift o.steps)

theorem steps_of_first_given_padded :
    Padded ["docs", "gen"] ["", "docs", "run", "docs", "gen"] ∧
    generate ⟨"0.14.1", .debug, [], [], ["", "docs", "run", "docs", "gen"]⟩ =
      generate ⟨"0.14.1", .debug, [], [], ["docs", "gen"]⟩ := by
  have hempty : Pads ["docs", "gen"] ["", "docs", "gen"] := .intro [] _ (by decide)
  have hstandard : Pads ["", "docs", "gen"] ["", "docs", "run", "gen"] :=
    .intro ["", "docs"] ["gen"] (by decide)
  have hagain : Pads ["", "docs", "run", "gen"] ["", "docs", "run", "docs", "gen"] :=
    .intro ["", "docs", "run"] ["gen"] (by decide)
  have hpadded := ((Relation.ReflTransGen.single hempty).tail hstandard).tail hagain
  exact ⟨hpadded, (steps_of_first_given ⟨"0.14.1", .debug, [], [], ["docs", "gen"]⟩).2.2.2.1 _
    hpadded⟩

end BuildScript

end ZigAdvisor
