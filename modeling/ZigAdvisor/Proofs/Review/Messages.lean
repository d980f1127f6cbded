import ZigAdvisor.Proofs.Text.Surrogates
import ZigAdvisor.Review.Optimization
import ZigAdvisor.Review.Registry

/-!
# Messages of rules

Every message of a rule is known beforehand, up to numbers in it. So no report holds a surrogate,
whatever the source text that it is on.
-/

namespace ZigAdvisor

open Text

namespace Rule

variable {severity : Severity} {holds : Metrics → Bool} {name : String} {t : Text} {m : Metrics}

@[simp] theorem message_onCondition : (onCondition severity holds t).message m = t := rfl

@[simp] theorem message_onPresence : (onPresence severity name t).message m = t := rfl

@[simp] theorem message_onAbsence : (onAbsence severity name t).message m = t := rfl

end Rule

theorem Report.plain_render {r : Report} {allClear : Text} (h : ∀ f ∈ r.findings, f.message.Plain)
    (hsummary : r.summary.Plain) (hclear : allClear.Plain) : (r.render allClear).Plain := by
  have hfound : Plain (trim (join "\n" (r.buckets.map renderBucket))) := by
    apply Plain.trim
    refine plain_join (plain_ofString _) ?_
    rw [List.forall_mem_map]
    intro bucket hbucket
    obtain ⟨severity, -, rfl⟩ := List.mem_map.mp (List.mem_filter.mp hbucket).1
    have hmessages : ∀ message ∈ r.messagesOf severity, message.Plain := by
      intro message hmessage
      obtain ⟨f, hf, rfl⟩ := List.mem_map.mp hmessage
      exact h f (List.mem_filter.mp hf).1
    simp [renderBucket, plain_bulletList hmessages]
  have hbullet : Plain (bulletList [allClear]) := plain_bulletList (by simpa using hclear)
  have hboth : Plain (trim (concat [trim (join "\n" (r.buckets.map renderBucket)), "\n\n",
      r.summary])) := Plain.trim (by simp [hfound, hsummary])
  unfold render
  dsimp only
  split_ifs
  · exact hbullet
  · exact hfound
  · exact hbullet
  · exact hboth

namespace Classifier

structure IsPlain (c : Classifier) : Prop where
  rules : ∀ rule ∈ c.rules, ∀ m, (rule.message m).Plain
  audit : ∀ code, ∀ f ∈ c.audit code, f.message.Plain

theorem IsPlain.review {c : Classifier} (h : c.IsPlain) (code : Text) : (c.review code).Plain := by
  refine Report.plain_render ?_ plain_nil (plain_ofString _)
  intro f hf
  rcases List.mem_append.mp hf with hf | hf
  · obtain ⟨rule, hrule, hfound⟩ := List.mem_filterMap.mp hf
    unfold Rule.finding? at hfound
    split_ifs at hfound
    rw [← Option.some.inj hfound]
    exact h.rules rule hrule _
  · exact h.audit code f hf

theorem plain_auditScript (code : Text) : ∀ f ∈ BuildSystem.auditScript code, f.message.Plain := by
  unfold BuildSystem.auditScript
  split_ifs
  · split
    · simp
    · rw [List.forall_mem_map]
      exact fun issue _ => plain_ofString _
  · simp

theorem isPlain_optimization : Optimization.classifier.IsPlain where
  rules := by simp [Optimization.classifier, Optimization.rules]
  audit := by simp [Optimization.classifier]

theorem isPlain_of_mem_registry {c : Classifier} (h : c ∈ registry) : c.IsPlain := by
  simp only [registry, List.mem_cons, List.not_mem_nil, or_false] at h
  rcases h with rfl | rfl | rfl | rfl | rfl | rfl | rfl | rfl | rfl | rfl | rfl
  · exact ⟨by simp [Style.classifier, Style.rules], by simp [Style.classifier]⟩
  · exact ⟨by simp [Idioms.classifier, Idioms.rules], by simp [Idioms.classifier]⟩
  · exact ⟨by simp [Safety.classifier, Safety.rules], by simp [Safety.classifier]⟩
  · exact ⟨by simp [Performance.classifier, Performance.rules], by simp [Performance.classifier]⟩
  · exact ⟨by simp [Concurrency.classifier, Concurrency.rules], by simp [Concurrency.classifier]⟩
  · exact ⟨by simp [Metaprogramming.classifier, Metaprogramming.rules],
      by simp [Metaprogramming.classifier]⟩
  · exact ⟨by simp [Testing.classifier, Testing.rules], by simp [Testing.classifier]⟩
  · exact ⟨by simp [BuildSystem.classifier, BuildSystem.rules], plain_auditScript⟩
  · exact ⟨by simp [Interop.classifier, Interop.rules], by simp [Interop.classifier]⟩
  · exact ⟨by simp [FileMetrics.classifier, FileMetrics.rules], by simp [FileMetrics.classifier]⟩
  · exact ⟨by simp [Modernity.classifier, Modernity.rules], by simp [Modernity.classifier]⟩

end Classifier

end ZigAdvisor
