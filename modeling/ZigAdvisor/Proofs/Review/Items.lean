import ZigAdvisor.Advice.Topic
import ZigAdvisor.Proofs.Report.Sections
import ZigAdvisor.Proofs.Review.Messages
import ZigAdvisor.Review.Registry
import ZigAdvisor.Review.Rule

/-!
# Messages as items

Every message of a review stands on one line and does not end with a blank, whatever the figures in
it. So every review can be the body of a section.
-/

namespace ZigAdvisor

open Text

namespace Text

variable {t u v : Text}

/-- Something that is filled in between two texts. -/
theorem isItem_filled (ht : IsLine t) (hu : IsLine u) (hv : IsItem v) :
    IsItem (concat [t, u, v]) :=
  isItem_concat_cons ht (isItem_concat_cons hu (isItem_concat_singleton hv))

end Text

theorem Complexity.isLine_label (c : Complexity) : IsLine c.label := by
  cases c <;> exact isLine_ofString rfl

namespace Classifier

structure IsItemized (c : Classifier) : Prop where
  rules : ∀ rule ∈ c.rules, ∀ m, IsItem (rule.message m)
  audit : ∀ code, ∀ f ∈ c.audit code, IsItem f.message
  allClear : IsItem c.allClear

theorem isItemized_style : Style.classifier.IsItemized where
  rules := by
    intro rule hrule m
    fin_cases hrule
    all_goals simp only [Rule.message_onPresence, Rule.message_onAbsence]
    case «2» =>
      exact isItem_filled (isLine_ofString rfl) (isLine_ofNat _) (isItem_ofString rfl)
    case «5» =>
      exact isItem_filled (isLine_ofString rfl) (isLine_ofNat _) (isItem_ofString rfl)
    case «7» =>
      exact isItem_filled (isLine_ofString rfl) (isLine_ofNat _) (isItem_ofString rfl)
    all_goals exact isItem_ofString rfl
  audit := fun _ f hf => absurd hf List.not_mem_nil
  allClear := isItem_ofString rfl

theorem isItemized_idioms : Idioms.classifier.IsItemized where
  rules := by
    intro rule hrule m
    fin_cases hrule
    all_goals simp only [Rule.message_onCondition, Rule.message_onPresence]
    all_goals exact isItem_ofString rfl
  audit := fun _ f hf => absurd hf List.not_mem_nil
  allClear := isItem_ofString rfl

theorem isItemized_safety : Safety.classifier.IsItemized where
  rules := by
    intro rule hrule m
    fin_cases hrule
    all_goals simp only [Rule.message_onCondition, Rule.message_onPresence]
    case «5» => exact (isLine_ofString rfl).append_isItem (isItem_ofString rfl)
    case «6» => exact (isLine_ofString rfl).append_isItem (isItem_ofString rfl)
    case «7» =>
      exact isItem_filled (isLine_ofString rfl) (isLine_ofNat _) (isItem_ofString rfl)
    all_goals exact isItem_ofString rfl
  audit := fun _ f hf => absurd hf List.not_mem_nil
  allClear := isItem_ofString rfl

theorem isItemized_performance : Performance.classifier.IsItemized where
  rules := by
    intro rule hrule m
    fin_cases hrule
    all_goals simp only [Rule.message_onCondition, Rule.message_onPresence]
    case «23» =>
      exact isItem_filled (isLine_ofString rfl) (Complexity.isLine_label _) (isItem_ofString rfl)
    all_goals exact isItem_ofString rfl
  audit := fun _ f hf => absurd hf List.not_mem_nil
  allClear := isItem_ofString rfl

theorem isItemized_concurrency : Concurrency.classifier.IsItemized where
  rules := by
    intro rule hrule m
    fin_cases hrule
    all_goals simp only [Rule.message_onCondition, Rule.message_onPresence]
    case «1» =>
      apply isItem_concat_cons (isLine_ofString rfl)
      apply isItem_concat_cons (isLine_ofNat _)
      exact isItem_filled (isLine_ofString rfl) (isLine_ofNat _) (isItem_ofString rfl)
    case «4» => exact (isLine_ofString rfl).append_isItem (isItem_ofString rfl)
    case «5» => exact (isLine_ofString rfl).append_isItem (isItem_ofString rfl)
    case «6» => exact (isLine_ofString rfl).append_isItem (isItem_ofString rfl)
    all_goals exact isItem_ofString rfl
  audit := fun _ f hf => absurd hf List.not_mem_nil
  allClear := isItem_ofString rfl

theorem isItemized_metaprogramming : Metaprogramming.classifier.IsItemized where
  rules := by
    intro rule hrule m
    fin_cases hrule
    all_goals simp only [Rule.message_onCondition, Rule.message_onPresence]
    case «0» =>
      exact isItem_filled (isLine_ofString rfl) (isLine_ofNat _) (isItem_ofString rfl)
    case «2» => exact (isLine_ofString rfl).append_isItem (isItem_ofString rfl)
    case «5» => exact (isLine_ofString rfl).append_isItem (isItem_ofString rfl)
    all_goals exact isItem_ofString rfl
  audit := fun _ f hf => absurd hf List.not_mem_nil
  allClear := isItem_ofString rfl

theorem isItemized_testing : Testing.classifier.IsItemized where
  rules := by
    intro rule hrule m
    fin_cases hrule
    all_goals simp only [Rule.message_onCondition, Rule.message_onPresence, Rule.message_onAbsence]
    case «1» =>
      exact isItem_concat_cons (isLine_ofNat _) (isItem_concat_singleton (isItem_ofString rfl))
    all_goals exact isItem_ofString rfl
  audit := fun _ f hf => absurd hf List.not_mem_nil
  allClear := isItem_ofString rfl

theorem isItem_advice (i : BuildIssue) : IsItem i.advice := by
  cases i <;> exact isItem_ofString rfl

theorem isItem_auditScript (code : Text) : ∀ f ∈ BuildSystem.auditScript code, IsItem f.message := by
  unfold BuildSystem.auditScript
  split_ifs
  · split
    · exact List.forall_mem_singleton.mpr (isItem_ofString rfl)
    · rw [List.forall_mem_map]
      exact fun issue _ => isItem_advice issue
  · exact List.forall_mem_nil _

theorem isItemized_buildSystem : BuildSystem.classifier.IsItemized where
  rules := by
    intro rule hrule m
    fin_cases hrule
    all_goals simp only [Rule.message_onCondition, Rule.message_onPresence]
    case «0» => exact (isLine_ofString rfl).append_isItem (isItem_ofString rfl)
    all_goals exact isItem_ofString rfl
  audit := isItem_auditScript
  allClear := isItem_ofString rfl

theorem isItemized_interop : Interop.classifier.IsItemized where
  rules := by
    intro rule hrule m
    fin_cases hrule
    all_goals simp only [Rule.message_onCondition, Rule.message_onPresence]
    case «8» =>
      exact isItem_concat_cons (isLine_ofNat _) (isItem_concat_singleton (isItem_ofString rfl))
    all_goals exact isItem_ofString rfl
  audit := fun _ f hf => absurd hf List.not_mem_nil
  allClear := isItem_ofString rfl

theorem isItemized_fileMetrics : FileMetrics.classifier.IsItemized where
  rules := by
    intro rule hrule m
    fin_cases hrule
    all_goals simp only [Rule.message_onCondition]
    case «0» =>
      apply isItem_concat_cons (isLine_ofString rfl)
      apply isItem_concat_cons (isLine_ofNat _)
      apply isItem_concat_cons (isLine_ofString rfl)
      apply isItem_concat_cons (isLine_ofNat _)
      exact isItem_filled (isLine_ofString rfl) (isLine_ofNat _) (isItem_ofString rfl)
    case «1» =>
      apply isItem_concat_cons (isLine_ofString rfl)
      apply isItem_concat_cons (isLine_ofNat _)
      apply isItem_concat_cons (isLine_ofString rfl)
      apply isItem_concat_cons (isLine_ofNat _)
      exact isItem_concat_cons (isLine_ofString rfl) (isItem_concat_singleton (isItem_ofNat _))
    case «2» =>
      exact isItem_filled (isLine_ofString rfl) (isLine_ofNat _) (isItem_ofString rfl)
    case «3» =>
      exact isItem_filled (isLine_ofString rfl) (isLine_ofNat _) (isItem_ofString rfl)
    case «4» =>
      exact isItem_filled (isLine_ofString rfl) (isLine_ofNat _) (isItem_ofString rfl)
    case «5» =>
      exact isItem_filled (isLine_ofString rfl) (Complexity.isLine_label _) (isItem_ofString rfl)
    case «6» =>
      apply isItem_concat_cons (isLine_ofString rfl)
      apply isItem_concat_cons (isLine_ofNat _)
      exact isItem_filled (isLine_ofString rfl) (isLine_ofNat _) (isItem_ofString rfl)
    all_goals exact isItem_ofString rfl
  audit := fun _ f hf => absurd hf List.not_mem_nil
  allClear := isItem_ofString rfl

theorem isItemized_modernity : Modernity.classifier.IsItemized where
  rules := by
    intro rule hrule m
    fin_cases hrule
    all_goals simp only [Rule.message_onCondition, Rule.message_onPresence]
    case «0» => exact (isLine_ofString rfl).append_isItem (isItem_ofString rfl)
    all_goals exact isItem_ofString rfl
  audit := fun _ f hf => absurd hf List.not_mem_nil
  allClear := isItem_ofString rfl

theorem isItemized_of_mem_registry {c : Classifier} (h : c ∈ registry) : c.IsItemized := by
  simp only [registry, List.mem_cons, List.not_mem_nil, or_false] at h
  rcases h with rfl | rfl | rfl | rfl | rfl | rfl | rfl | rfl | rfl | rfl | rfl
  · exact isItemized_style
  · exact isItemized_idioms
  · exact isItemized_safety
  · exact isItemized_performance
  · exact isItemized_concurrency
  · exact isItemized_metaprogramming
  · exact isItemized_testing
  · exact isItemized_buildSystem
  · exact isItemized_interop
  · exact isItemized_fileMetrics
  · exact isItemized_modernity

theorem IsItemized.isItem {c : Classifier} (h : c.IsItemized) (code : Text) :
    ∀ f ∈ (c.classify code).findings, IsItem f.message := by
  intro f hf
  rcases List.mem_append.mp hf with hf | hf
  · obtain ⟨rule, hrule, -, rfl⟩ := mem_ruleFindings.mp hf
    exact h.rules rule hrule _
  · exact h.audit code f hf

theorem IsItemized.isBody_review {c : Classifier} (h : c.IsItemized) (code : Text) :
    Report.IsBody (c.review code) :=
  Report.isBody_render (h.isItem code) rfl h.allClear

end Classifier

namespace Topic

theorem isItem_advice : ∀ topic ∈ all, ∀ s ∈ topic.advice, IsItem (ofString s) := by
  intro topic htopic s hs
  fin_cases htopic
  all_goals fin_cases hs
  all_goals exact isItem_ofString rfl

/-- What is recommended for a prompt is given in items. -/
theorem isItem_recommendations (prompt : Text) : ∀ t ∈ recommendations prompt, IsItem t := by
  unfold recommendations
  split
  · exact List.forall_mem_singleton.mpr (isItem_ofString rfl)
  · rw [List.forall_mem_map]
    intro s hs
    obtain ⟨topic, htopic, hadvice⟩ := List.mem_flatMap.mp hs
    exact isItem_advice topic (List.mem_filter.mp htopic).1 s hadvice

end Topic

end ZigAdvisor
