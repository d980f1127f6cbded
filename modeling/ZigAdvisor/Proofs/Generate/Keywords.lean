import ZigAdvisor.Advice.Topic
import ZigAdvisor.Generate.Template
import ZigAdvisor.Proofs.Text.LowerCase

/-!
# Keywords of a prompt and of its context

No keyword has a space in it, and a space keeps two texts apart when they are put into lower case.
So a prompt and a context together ask for what the one or the other asks for
(`CodeRequest.read_eq_union`), get the higher of their two templates, and mention the topics that
one of them mentions.
-/

namespace ZigAdvisor

open Text

variable {p c t u v v' w : Text}

theorem Feature.mem_all (f : Feature) : f ∈ all := by
  cases f <;> decide

/-! ## Requests -/

namespace CodeRequest

variable {words : List String} {r s : CodeRequest}

def union (r s : CodeRequest) : CodeRequest where
  features := Feature.all.filter fun f => f ∈ r.features ∨ f ∈ s.features
  errorHandling := r.errorHandling || s.errorHandling
  testing := r.testing || s.testing
  performance := r.performance || s.performance

structure IsWithin (r s : CodeRequest) : Prop where
  features : r.features ⊆ s.features
  errorHandling : r.errorHandling = true → s.errorHandling = true
  testing : r.testing = true → s.testing = true
  performance : r.performance = true → s.performance = true

theorem features_union (r s : CodeRequest) : (r.union s).features =
    Feature.all.filter fun f => f ∈ r.features ∨ f ∈ s.features := rfl

theorem mem_features_union {f : Feature} :
    f ∈ (r.union s).features ↔ f ∈ r.features ∨ f ∈ s.features := by
  rw [features_union, List.mem_filter, and_iff_right f.mem_all, decide_eq_true_eq]

theorem union_comm (r s : CodeRequest) : r.union s = s.union r := by
  simp only [union, or_comm, Bool.or_comm]

theorem isWithin_union (r s : CodeRequest) : r.IsWithin (r.union s) where
  features _ hf := mem_features_union.mpr (Or.inl hf)
  errorHandling h := (Bool.or_eq_true ..).mpr (Or.inl h)
  testing h := (Bool.or_eq_true ..).mpr (Or.inl h)
  performance h := (Bool.or_eq_true ..).mpr (Or.inl h)

theorem searched_nil_left (c : Text) : searched [] c = lower c := by
  cases c with
  | nil => rfl
  | cons d c => simp [searched, join]

theorem searched_nil_right (p : Text) : searched p [] = lower p := by
  cases p with
  | nil => rfl
  | cons d p => simp [searched, join]

/-- A word without spaces is found in a prompt and its context where it is found in one of them. -/
theorem infix_searched (hw : (' ' : CodePoint) ∉ w) :
    w <:+: searched p c ↔ w <:+: lower p ∨ w <:+: lower c := by
  have hnil {t : Text} (h : w <:+: lower []) : w <:+: t := h.trans List.nil_infix
  cases p with
  | nil =>
    rw [searched_nil_left]
    exact (or_iff_right_of_imp hnil).symm
  | cons d p =>
    cases c with
    | nil =>
      rw [searched_nil_right]
      exact (or_iff_left_of_imp hnil).symm
    | cons e c =>
      have hjoin : searched (d :: p) (e :: c) = lower (d :: p ++ (' ' : CodePoint) :: e :: c) := by
        simp [searched, join, ofString]
      rw [hjoin, infix_lower_append_space hw]

theorem mentions_iff : mentions t words = true ↔ ∃ k ∈ words, ofString k <:+: t := by
  simp only [mentions, List.any_eq_true, contains_iff]

theorem features_read (p c : Text) : (read p c).features =
    Feature.all.filter fun f => (searched p c).contains f.keyword := rfl

theorem mem_features_read {f : Feature} :
    f ∈ (read p c).features ↔ ofString f.keyword <:+: searched p c := by
  rw [features_read, List.mem_filter, and_iff_right f.mem_all, contains_iff]

/-- Words without spaces are mentioned where they are mentioned in one of two other texts. -/
theorem mentions_eq_or (hwords : ∀ k ∈ words, (' ' : CodePoint) ∉ ofString k)
    (h : ∀ w : Text, (' ' : CodePoint) ∉ w → (w <:+: u ↔ w <:+: v ∨ w <:+: v')) :
    mentions u words = (mentions v words || mentions v' words) := by
  rw [Bool.eq_iff_iff, Bool.or_eq_true, mentions_iff, mentions_iff, mentions_iff, ← exists_or]
  refine exists_congr fun k => ?_
  rw [← and_or_left]
  exact and_congr_right fun hk => h _ (hwords k hk)

/-- A request reads what two others read if the words in its text are those in theirs. -/
theorem read_eq_union_of_infix {p₁ p₂ c₁ c₂ : Text} (h : ∀ w : Text, (' ' : CodePoint) ∉ w →
      (w <:+: searched p c ↔ w <:+: searched p₁ c₁ ∨ w <:+: searched p₂ c₂)) :
    read p c = (read p₁ c₁).union (read p₂ c₂) := by
  have hkeyword (f : Feature) : (' ' : CodePoint) ∉ ofString f.keyword := by
    cases f <;> decide
  have hfeatures : (read p c).features = ((read p₁ c₁).union (read p₂ c₂)).features := by
    rw [features_read, features_union]
    apply List.filter_congr
    intro f _
    rw [Bool.eq_iff_iff, decide_eq_true_eq, mem_features_read, mem_features_read, contains_iff]
    exact h _ (hkeyword f)
  have herror : (read p c).errorHandling = ((read p₁ c₁).union (read p₂ c₂)).errorHandling :=
    mentions_eq_or (by decide) h
  have htest : (read p c).testing = ((read p₁ c₁).union (read p₂ c₂)).testing :=
    mentions_eq_or (by decide) h
  have hfast : (read p c).performance = ((read p₁ c₁).union (read p₂ c₂)).performance :=
    mentions_eq_or (by decide) h
  calc read p c
    _ = ⟨(read p c).features, (read p c).errorHandling, (read p c).testing,
          (read p c).performance⟩ := rfl
    _ = (read p₁ c₁).union (read p₂ c₂) := by rw [hfeatures, herror, htest, hfast]

/-- A prompt and its context ask for what each of them asks for alone. -/
theorem read_eq_union (p c : Text) : read p c = (read p []).union (read c []) := by
  apply read_eq_union_of_infix
  intro w hw
  rw [infix_searched hw, searched_nil_right, searched_nil_right]

theorem read_comm (p c : Text) : read p c = read c p := by
  rw [read_eq_union p c, read_eq_union c p, union_comm]

/-- Text that is added after a space adds what it asks for alone. -/
theorem read_append_space (p c t : Text) :
    read (p ++ (' ' : CodePoint) :: t) c = (read p c).union (read t []) := by
  apply read_eq_union_of_infix
  intro w hw
  rw [infix_searched hw, infix_searched hw, infix_lower_append_space hw, searched_nil_right,
    or_right_comm]

end CodeRequest

/-! ## Templates -/

namespace Template

def rank : Template → ℕ
  | function => 0
  | union => 1
  | enum => 2
  | struct => 3

theorem rank_injective : Function.Injective rank := by
  intro a b h
  cases a <;> cases b <;> first | rfl | cases h

instance : LinearOrder Template := LinearOrder.lift' rank rank_injective

/-- Whether features call for a template. A function needs no feature. -/
def IsCalledFor (features : List Feature) : Template → Prop
  | struct => .struct ∈ features
  | enum => .enum ∈ features
  | union => .union ∈ features
  | function => True

/-- The template that is selected is the highest that is called for. -/
theorem isGreatest_select (features : List Feature) :
    IsGreatest {t | IsCalledFor features t} (select features) := by
  unfold select
  split_ifs with hstruct henum hunion
  · refine ⟨List.contains_iff_mem.mp hstruct, ?_⟩
    rintro (_ | _ | _ | _) - <;> decide
  · refine ⟨List.contains_iff_mem.mp henum, ?_⟩
    rintro (_ | _ | _ | _) ht
    · exact absurd (List.contains_iff_mem.mpr ht) hstruct
    all_goals decide
  · refine ⟨List.contains_iff_mem.mp hunion, ?_⟩
    rintro (_ | _ | _ | _) ht
    · exact absurd (List.contains_iff_mem.mpr ht) hstruct
    · exact absurd (List.contains_iff_mem.mpr ht) henum
    all_goals decide
  · refine ⟨trivial, ?_⟩
    rintro (_ | _ | _ | _) ht
    · exact absurd (List.contains_iff_mem.mpr ht) hstruct
    · exact absurd (List.contains_iff_mem.mpr ht) henum
    · exact absurd (List.contains_iff_mem.mpr ht) hunion
    · decide

/-- What two requests ask for gets the higher of their templates. -/
theorem select_union (r s : CodeRequest) :
    select (r.union s).features = max (select r.features) (select s.features) := by
  have hcalled : {t | IsCalledFor (r.union s).features t} =
      {t | IsCalledFor r.features t} ∪ {t | IsCalledFor s.features t} := by
    ext t
    cases t with
    | struct | enum | union => exact CodeRequest.mem_features_union
    | function => exact iff_of_true trivial (Or.inl trivial)
  have hboth := (isGreatest_select r.features).union (isGreatest_select s.features)
  rw [← hcalled] at hboth
  exact (isGreatest_select _).unique hboth

end Template

/-! ## Topics -/

namespace Topic

variable {prompt : Text}

def isTriggeredBy (topic : Topic) (prompt : Text) : Bool := topic.isIn (lower prompt)

/-- Two texts with a space between them mention the topics that each of them mentions. -/
theorem mentioned_append_space (p c : Text) : mentioned (p ++ (' ' : CodePoint) :: c) =
    all.filter fun topic => topic.isTriggeredBy p || topic.isTriggeredBy c := by
  have hkeywords : ∀ topic ∈ all, ∀ k ∈ topic.keywords, (' ' : CodePoint) ∉ ofString k := by
    decide
  apply List.filter_congr
  intro topic htopic
  exact CodeRequest.mentions_eq_or (hkeywords topic htopic) fun _ => infix_lower_append_space

def adviceOn (topics : List Topic) : List Text :=
  if topics.isEmpty then [ofString noTopic]
  else topics.flatMap fun topic => topic.advice.map ofString

theorem one_lt_length_advice : ∀ topic ∈ all, 1 < topic.advice.length := by
  decide

theorem mem_all_of_mem_mentioned {topic : Topic} (h : topic ∈ mentioned prompt) : topic ∈ all :=
  (List.mem_filter.mp h).1

theorem recommendations_eq (prompt : Text) : recommendations prompt =
    adviceOn (mentioned prompt) := by
  have hmap : ((mentioned prompt).flatMap advice).map ofString =
      (mentioned prompt).flatMap fun topic => topic.advice.map ofString := List.map_flatMap ..
  have hall : ∀ topic ∈ mentioned prompt, topic ∈ all := fun _ => mem_all_of_mem_mentioned
  unfold recommendations adviceOn
  rw [← hmap]
  cases hmentioned : mentioned prompt with
  | nil => rfl
  | cons topic topics =>
    rw [hmentioned, List.forall_mem_cons] at hall
    obtain ⟨line, lines, hadvice⟩ := List.exists_cons_of_length_pos
      (Nat.zero_lt_one.trans (one_lt_length_advice topic hall.1))
    rw [List.flatMap_cons, hadvice]
    rfl

/-- The general remark is made of a prompt that mentions no topic, and of no other one. -/
theorem recommendations_eq_noTopic_iff :
    recommendations prompt = [ofString noTopic] ↔ mentioned prompt = [] := by
  have hall : ∀ topic ∈ mentioned prompt, topic ∈ all := fun _ => mem_all_of_mem_mentioned
  rw [recommendations_eq, adviceOn]
  cases hmentioned : mentioned prompt with
  | nil => exact iff_of_true rfl rfl
  | cons topic topics =>
    rw [hmentioned, List.forall_mem_cons] at hall
    have hlong := one_lt_length_advice topic hall.1
    refine iff_of_false (fun h => ?_) (List.cons_ne_nil topic topics)
    have hlength := congrArg List.length h
    rw [List.isEmpty_cons, if_neg Bool.false_ne_true, List.flatMap_cons, List.length_append,
      List.length_map, List.length_singleton] at hlength
    omega

theorem nodup_advice : (all.flatMap advice).Nodup := by
  decide

/-- No piece of advice is given twice. -/
theorem nodup_recommendations (prompt : Text) : (recommendations prompt).Nodup := by
  have hsublist : ((mentioned prompt).flatMap advice).Sublist (all.flatMap advice) :=
    List.filter_sublist.flatMap _
  have hnodup := (hsublist.nodup nodup_advice).map ofString_injective
  unfold recommendations
  split
  · exact List.nodup_singleton _
  · exact hnodup

end Topic

/-- A prompt and a context together ask for what each of them asks for alone, in whichever order
they stand and whatever is added after a space, and get the higher of their templates. With a space
between them they mention the topics that one of them mentions, and the advice is that on these
topics, or a general remark if there are none. -/
theorem keywords_of_parts (p c : Text) :
    CodeRequest.read p c = (CodeRequest.read p []).union (CodeRequest.read c []) ∧
    CodeRequest.read p c = CodeRequest.read c p ∧
    (∀ t : Text,
      (CodeRequest.read p c).IsWithin (CodeRequest.read (p ++ (' ' : CodePoint) :: t) c) ∧
      (CodeRequest.read p c).IsWithin (CodeRequest.read p (c ++ (' ' : CodePoint) :: t))) ∧
    Template.select (CodeRequest.read p c).features =
      max (Template.select (CodeRequest.read p []).features)
        (Template.select (CodeRequest.read c []).features) ∧
    Topic.recommendations (p ++ (' ' : CodePoint) :: c) =
      Topic.adviceOn (Topic.all.filter fun topic =>
        topic.isTriggeredBy p || topic.isTriggeredBy c) ∧
    (Topic.recommendations (p ++ (' ' : CodePoint) :: c)).Nodup ∧
    (Topic.recommendations (p ++ (' ' : CodePoint) :: c) = [ofString Topic.noTopic] ↔
      ∀ topic ∈ Topic.all, topic.isTriggeredBy p = false ∧ topic.isTriggeredBy c = false) := by
  have hadded (p c t : Text) :
      (CodeRequest.read p c).IsWithin (CodeRequest.read (p ++ (' ' : CodePoint) :: t) c) := by
    rw [CodeRequest.read_append_space]
    exact CodeRequest.isWithin_union _ _
  refine ⟨CodeRequest.read_eq_union p c, CodeRequest.read_comm p c, fun t => ⟨hadded p c t, ?_⟩,
    ?_, ?_, Topic.nodup_recommendations _, ?_⟩
  · rw [CodeRequest.read_comm p c, CodeRequest.read_comm p]
    exact hadded c p t
  · rw [CodeRequest.read_eq_union, Template.select_union]
  · rw [Topic.recommendations_eq, Topic.mentioned_append_space]
  · rw [Topic.recommendations_eq_noTopic_iff, Topic.mentioned_append_space, List.filter_eq_nil_iff]
    simp only [Bool.not_eq_true, Bool.or_eq_false_iff]

end ZigAdvisor
