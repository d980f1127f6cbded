import ZigAdvisor.Proofs.Review.Items
import ZigAdvisor.Proofs.Tool.Texts

/-!
# The sections of a full review

The answer to a full review is one text with a section for each classifier. Blank lines separate its
sections and also the buckets within them, and every part is trimmed, but the sections can be told
apart again: reading the answer back gives each classifier's own report.
-/

namespace ZigAdvisor.Tool

open Report Text

variable {code prompt : Text}

def review (code prompt : Text) : Text := (recommend Classifier.registry code prompt).value

def opening : Text := "Code Analysis and Recommendations:"

def parts (code prompt : Text) : List (Text × Text) :=
  (Classifier.registry.map fun c => (ofString c.title, c.review code)) ++ promptSection prompt

def fixedTitles : List Text := opening :: Classifier.registry.map fun c => titleLine c.title

def promptTitle (prompt : Text) : Text := concat ["Specific Recommendations for \"", prompt, "\":"]

def titles (prompt : Text) : List Text :=
  fixedTitles ++ if prompt = [] then [] else [promptTitle prompt]

theorem isBody_recommendations (prompt : Text) :
    IsBody (bulletList (Topic.recommendations prompt)) := by
  apply isBody_bulletList (Topic.isItem_recommendations prompt)
  unfold Topic.recommendations
  split
  · exact List.cons_ne_nil _ _
  · next advice hadvice => simpa using hadvice

def promptText (prompt : Text) : Text :=
  ((promptSection prompt).map fun part => ofString "\n\n" ++ sectionText part).flatten

theorem letter_of_mem_promptSection :
    ∀ part ∈ promptSection prompt, part.1.head?.any CodePoint.isAsciiLetter = true := by
  unfold promptSection
  split_ifs
  · exact List.forall_mem_nil _
  · exact List.forall_mem_singleton.mpr (head_append (by decide))

theorem isBody_of_mem_promptSection : ∀ part ∈ promptSection prompt, IsBody part.2 := by
  unfold promptSection
  split_ifs
  · exact List.forall_mem_nil _
  · exact List.forall_mem_singleton.mpr (isBody_recommendations prompt)

theorem isSection_promptSection (h : IsLine prompt) :
    ∀ part ∈ promptSection prompt, IsSection part := by
  intro part hpart
  refine ⟨?_, letter_of_mem_promptSection part hpart, isBody_of_mem_promptSection part hpart⟩
  unfold promptSection at hpart
  split_ifs at hpart
  · cases hpart
  · obtain rfl := List.mem_singleton.mp hpart
    have hquote : IsLine (ofString "\"") := isLine_ofString rfl
    have hclosed : IsLine (prompt ++ (ofString "\"" ++ [])) :=
      h.append (hquote.append (List.forall_mem_nil _))
    exact (isLine_ofString rfl).append hclosed

theorem isSection_review {c : Classifier} (hc : c ∈ Classifier.registry) (code : Text) :
    IsSection (ofString c.title, c.review code) where
  line := by
    fin_cases hc
    all_goals exact isLine_ofString rfl
  letter := by
    have hletter : ∀ c ∈ Classifier.registry,
        (ofString c.title).head?.any CodePoint.isAsciiLetter = true := by decide
    exact hletter c hc
  body := (Classifier.isItemized_of_mem_registry hc).isBody_review code

theorem isSection_parts (code : Text) (h : IsLine prompt) :
    ∀ part ∈ parts code prompt, IsSection part := by
  rw [parts, List.forall_mem_append, List.forall_mem_map]
  exact ⟨fun c hc => isSection_review hc code, isSection_promptSection h⟩

theorem framed_parts (code prompt : Text) :
    ∀ part ∈ parts code prompt, Framed (sectionText part) := by
  rw [parts, List.forall_mem_append, List.forall_mem_map]
  constructor
  · intro c hc
    have hsection := isSection_review hc code
    exact framed_sectionText hsection.letter hsection.body
  · intro part hpart
    exact framed_sectionText (letter_of_mem_promptSection part hpart)
      (isBody_of_mem_promptSection part hpart)

/-- A review is its first line and its sections, with nothing trimmed. -/
theorem review_eq (code prompt : Text) : review code prompt =
    opening ++ (ofString "\n\n" ++ join "\n\n" ((parts code prompt).map sectionText)) := by
  have hopening : ofString "Code Analysis and Recommendations:\n\n" =
      opening ++ ofString "\n\n" := rfl
  have hsections : sections (parts code prompt) =
      join "\n\n" ((parts code prompt).map sectionText) :=
    sections_eq (framed_parts code prompt) (List.cons_ne_nil _ _)
  rw [← hsections, review, recommend]
  simp only [Traced.value_bind, Traced.value_pure, Traced.value_mapM,
    Classifier.value_reviewTraced, concat_cons, concat_nil, List.append_nil]
  rw [hopening, List.append_assoc]
  rfl

/-- What is said of a prompt stands behind what is said of the source text. -/
theorem review_eq_append (code prompt : Text) :
    review code prompt = review code [] ++ promptText prompt := by
  rw [review_eq, review_eq, parts, parts, promptText, promptSection, promptSection]
  by_cases h : prompt.isEmpty = true
  · rw [if_pos h, if_pos (by rfl), List.append_nil, List.map_nil, List.flatten_nil, List.append_nil]
  · rw [if_neg h, if_pos (by rfl), List.append_nil, List.map_append, List.map_singleton,
      List.map_singleton, List.flatten_singleton, join_concat]
    · simp only [List.append_assoc]
    · exact List.cons_ne_nil _ _

theorem readSections_review (code : Text) (h : IsLine prompt) :
    readSections (review code prompt) =
      (opening, []) :: (parts code prompt).map fun part => (titleLine part.1, part.2) := by
  rw [review_eq]
  apply readSections_append
  · exact isLine_ofString rfl
  · decide
  · exact isSection_parts code h
  · exact List.cons_ne_nil _ _

/-- The reports of the classifiers can be read off a review, whatever the prompt. -/
theorem review_inj {code code' : Text} : review code prompt = review code' prompt ↔
    ∀ c ∈ Classifier.registry, c.review code = c.review code' := by
  have hempty : IsLine [] := List.forall_mem_nil _
  rw [review_eq_append, review_eq_append code', List.append_cancel_right_eq]
  constructor
  · intro h
    have hread := congrArg readSections h
    rw [readSections_review code hempty, readSections_review code' hempty, parts, parts,
      List.cons.injEq, List.map_append, List.map_append, List.map_map, List.map_map] at hread
    have hreviews := List.append_cancel_right hread.2
    intro c hc
    exact (Prod.mk.inj (List.map_inj_left.mp hreviews c hc)).2
  · intro h
    have hreviews : (Classifier.registry.map fun c => (ofString c.title, c.review code)) =
        Classifier.registry.map fun c => (ofString c.title, c.review code') := by
      apply List.map_congr_left
      intro c hc
      rw [h c hc]
    rw [review_eq, review_eq, parts, parts, hreviews]

theorem map_titleLine_promptSection (prompt : Text) :
    ((promptSection prompt).map fun part => titleLine part.1) =
      if prompt = [] then [] else [promptTitle prompt] := by
  have hquote : ofString "\":" = ofString "\"" ++ ofString ":" := rfl
  by_cases h : prompt = []
  · rw [h]
    rfl
  · rw [promptSection, if_neg (by simpa using h), if_neg h, List.map_singleton]
    simp only [titleLine, promptTitle, concat_cons, concat_nil, List.append_nil, hquote,
      List.append_assoc]

theorem titles_eq (code prompt : Text) : titles prompt =
    opening :: (parts code prompt).map fun part => titleLine part.1 := by
  rw [titles, parts, List.map_append, List.map_map, map_titleLine_promptSection]
  rfl

/-- No title comes twice. -/
theorem nodup_titles (prompt : Text) : (titles prompt).Nodup := by
  have hfixed : fixedTitles.Nodup := by decide
  -- None of the fixed titles begins like the one over the advice on a prompt.
  have hother : ∀ t ∈ fixedTitles, t.take 2 ≠ ofString "Sp" := by decide
  by_cases h : prompt = []
  · rwa [titles, if_pos h, List.append_nil]
  · rw [titles, if_neg h, List.nodup_append]
    refine ⟨hfixed, List.nodup_singleton _, ?_⟩
    intro t ht u hu
    obtain rfl := List.mem_singleton.mp hu
    rintro rfl
    exact hother _ ht rfl

/-- Whether the sections of a full review can be read back from its answer. -/
structure ReadsBack (code prompt : Text) : Prop where
  titles : (splitAtNewlines (review code prompt)).filter isTitle = titles prompt
  distinct : (Tool.titles prompt).Nodup
  sections : readSections (review code prompt) =
    (opening, []) :: (Classifier.registry.map fun c => (titleLine c.title, c.review code)) ++
      (promptSection prompt).map fun part => (titleLine part.1, part.2)
  nonempty : ∀ c ∈ Classifier.registry, (c.review code).isBlank = false

/-- From the answer to a full review each section can be read back, whatever the source text and for
every prompt on one line. -/
theorem review_readsBack (code : Text) (h : IsLine prompt) : ReadsBack code prompt where
  titles := by
    rw [← map_fst_readSections, readSections_review code h, List.map_cons, List.map_map,
      titles_eq code]
    rfl
  distinct := nodup_titles prompt
  sections := by
    rw [readSections_review code h, parts, List.map_append, List.map_map]
    rfl
  nonempty := fun c hc => (isSection_review hc code).body.framed.isBlank

theorem review_readsBack_memory : IsLine (ofString "memory") ∧
    (splitAtNewlines (review "fn f() void \x7b\x7d" "memory")).filter isTitle =
      Tool.titles "memory" := by
  have hline : IsLine (ofString "memory") := isLine_ofString rfl
  exact ⟨hline, (review_readsBack _ hline).titles⟩

end ZigAdvisor.Tool
