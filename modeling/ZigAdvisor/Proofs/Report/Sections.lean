import ZigAdvisor.Proofs.Text.Items
import ZigAdvisor.Report.Render

/-!
# Reading sections back

A document of several sections is one text, in which a blank line stands between sections and also
between the buckets of a report. Its titles are told by their first code point: items of lists begin
with a dash, headings of buckets with a symbol. So the sections of a document can be read back from
its lines, title and body, as long as no line of a body looks like a title (`readSections_join`).

No line of a report does: a report of items is written as one block for each bucket, a heading with
its items, and nothing is left to trim but the line feed behind the last block (`isBody_render`).
-/

namespace ZigAdvisor

open Text

theorem CodePoint.isBlank_of_isAsciiLetter {c : CodePoint} (h : c.isAsciiLetter = true) :
    c.isBlank = false := by
  simp only [CodePoint.isAsciiLetter, Bool.or_eq_true, Bool.and_eq_true, decide_eq_true_eq] at h
  simp only [CodePoint.isBlank, blankTable, Ranges.contains]
  grind

namespace Report

variable {t title line : Text} {body rest ts items : List Text} {parts : List (Text × Text)}

/-- Whether a line is a title: neither blank nor an item of a list nor the heading of a bucket. -/
def isTitle (line : Text) : Bool :=
  !line.isBlank && !startsWith line "- " && Severity.all.all fun s => line != ofString s.heading

def sectionLines : List Text → List (Text × List Text)
  | [] => []
  | line :: rest =>
    if isTitle line then (line, rest.takeWhile (!isTitle ·)) :: sectionLines rest
    else sectionLines rest

def readSections (document : Text) : List (Text × Text) :=
  (sectionLines (splitAtNewlines document)).map fun s => (s.1, trim (join "\n" s.2))

theorem map_fst_sectionLines (ls : List Text) :
    (sectionLines ls).map Prod.fst = ls.filter isTitle := by
  induction ls with
  | nil => rfl
  | cons line ls ih =>
    by_cases h : isTitle line = true
    · rw [sectionLines, if_pos h, List.map_cons, ih, List.filter_cons_of_pos h]
    · rw [sectionLines, if_neg h, ih, List.filter_cons_of_neg h]

/-- The titles of a document are its lines that are titles. -/
theorem map_fst_readSections (document : Text) :
    (readSections document).map Prod.fst = (splitAtNewlines document).filter isTitle := by
  rw [readSections, List.map_map, ← map_fst_sectionLines]
  rfl

theorem sectionLines_append (hbody : ∀ line ∈ body, isTitle line = false) :
    sectionLines (body ++ rest) = sectionLines rest := by
  induction body with
  | nil => rfl
  | cons line body ih =>
    rw [List.forall_mem_cons] at hbody
    rw [List.cons_append, sectionLines, if_neg (by simp [hbody.1]), ih hbody.2]

theorem sectionLines_section (htitle : isTitle title = true)
    (hbody : ∀ line ∈ body, isTitle line = false) (hrest : ∀ line ∈ rest.head?, isTitle line = true) :
    sectionLines (title :: (body ++ rest)) = (title, body) :: sectionLines rest := by
  have hstop : rest.takeWhile (!isTitle ·) = [] := by
    cases rest with
    | nil => rfl
    | cons line rest => exact List.takeWhile_cons_of_neg (by simp [hrest line rfl])
  have htake : (body ++ rest).takeWhile (!isTitle ·) = body := by
    rw [List.takeWhile_append_of_pos fun line hline => by simp [hbody line hline], hstop,
      List.append_nil]
  rw [sectionLines, if_pos htitle, htake, sectionLines_append hbody]

/-- A line with a letter in front is no item and no heading. -/
theorem isTitle_of_letter (h : line.head?.any CodePoint.isAsciiLetter = true) :
    isTitle line = true := by
  cases line with
  | nil => exact absurd h Bool.false_ne_true
  | cons c line =>
    have hblank : Text.isBlank (c :: line) = false := by
      rw [Text.isBlank, List.all_cons, CodePoint.isBlank_of_isAsciiLetter h]
      rfl
    have hdash : startsWith (c :: line) "- " = false := by
      rw [← Bool.not_eq_true, startsWith, List.isPrefixOf_iff_prefix]
      intro hfront
      have hc : ('-' : CodePoint) = c := (List.cons_prefix_cons.mp hfront).1
      rw [← hc] at h
      exact Bool.false_ne_true h
    have hheading : (Severity.all.all fun s => c :: line != ofString s.heading) = true := by
      rw [List.all_eq_true]
      intro severity _
      rw [bne_iff_ne]
      intro heq
      rw [heq] at h
      revert h
      cases severity <;> decide
    rw [isTitle, hblank, hdash, hheading]
    rfl

structure IsBody (t : Text) : Prop where
  framed : Framed t
  untitled : ∀ line ∈ splitAtNewlines t, isTitle line = false

structure IsSection (part : Text × Text) : Prop where
  line : IsLine part.1
  letter : part.1.head?.any CodePoint.isAsciiLetter = true
  body : IsBody part.2

def titleLine (title : Text) : Text := concat [title, ":"]

def sectionText (part : Text × Text) : Text := concat [part.1, ":\n", part.2]

namespace IsSection

variable {part next : Text × Text}

theorem isTitle (h : IsSection part) : Report.isTitle (titleLine part.1) = true :=
  isTitle_of_letter (head_append h.letter)

theorem splitAtNewlines (h : IsSection part) : Text.splitAtNewlines (sectionText part) =
    titleLine part.1 :: Text.splitAtNewlines part.2 := by
  have htext : sectionText part = titleLine part.1 ++ ('\n' : CodePoint) :: part.2 := by
    have hcolon : ofString ":\n" = ofString ":" ++ [('\n' : CodePoint)] := rfl
    simp only [sectionText, titleLine, concat_cons, concat_nil, List.append_nil, hcolon,
      List.append_assoc, List.singleton_append]
  have hline : IsLine (titleLine part.1) := by
    rw [titleLine, concat_cons]
    exact h.line.append (isLine_ofString (l := [':']) rfl)
  rw [htext, splitAtNewlines_append, splitAtNewlines_of_isLine hline]
  rfl

end IsSection

theorem framed_sectionText {part : Text × Text}
    (hletter : part.1.head?.any CodePoint.isAsciiLetter = true) (hbody : IsBody part.2) :
    Framed (sectionText part) where
  head := by
    apply head_append
    cases hhead : part.1.head? with
    | none =>
      rw [hhead] at hletter
      exact absurd hletter Bool.false_ne_true
    | some c =>
      rw [hhead] at hletter
      rw [Option.any_some, CodePoint.isBlank_of_isAsciiLetter hletter]
      rfl
  last := by
    rw [sectionText, concat_cons, concat_cons, concat_cons, concat_nil, List.append_nil]
    exact last_append (last_append hbody.framed.last)

/-- Trimming does not touch a document of sections. -/
theorem sections_eq (h : ∀ part ∈ parts, Framed (sectionText part)) (hne : parts ≠ []) :
    sections parts = join "\n\n" (parts.map sectionText) := by
  have hframed : Framed (join "\n\n" (parts.map sectionText)) := by
    apply framed_join
    · rwa [List.forall_mem_map]
    · exact fun hnil => hne (List.map_eq_nil_iff.mp hnil)
  exact hframed.trim

theorem join_lines_append_nil (t : Text) :
    join "\n" (splitAtNewlines t ++ [[]]) = t ++ [('\n' : CodePoint)] := by
  have hsplit : splitAtNewlines (t ++ [('\n' : CodePoint)]) = splitAtNewlines t ++ [[]] :=
    splitAtNewlines_append
  rw [← hsplit, join_splitAtNewlines]

/-- A document begins with the title of its first section. -/
theorem head?_splitAtNewlines_join {part : Text × Text} (h : IsSection part)
    (parts : List (Text × Text)) :
    (splitAtNewlines (join "\n\n" ((part :: parts).map sectionText))).head? =
      some (titleLine part.1) := by
  cases parts with
  | nil =>
    rw [List.map_singleton, join, List.intercalate_singleton, h.splitAtNewlines]
    rfl
  | cons next parts =>
    rw [List.map_cons, List.map_cons, join_cons_cons, splitAtNewlines_append_blank,
      h.splitAtNewlines]
    rfl

theorem readSections_sectionText {part : Text × Text} (h : IsSection part) :
    readSections (sectionText part) = [(titleLine part.1, part.2)] := by
  have hlines : splitAtNewlines (sectionText part) =
      titleLine part.1 :: (splitAtNewlines part.2 ++ []) := by
    rw [h.splitAtNewlines, List.append_nil]
  rw [readSections, hlines, sectionLines_section h.isTitle h.body.untitled (by simp), List.map_cons,
    join_splitAtNewlines, h.body.framed.trim]
  rfl

/-- The first of several sections is read back in front of the others. -/
theorem readSections_join_cons_cons {part next : Text × Text} (hpart : IsSection part)
    (hnext : IsSection next) (parts : List (Text × Text)) :
    readSections (join "\n\n" ((part :: next :: parts).map sectionText)) =
      (titleLine part.1, part.2) ::
        readSections (join "\n\n" ((next :: parts).map sectionText)) := by
  have hfirst : ∀ line ∈ (splitAtNewlines (join "\n\n"
      ((next :: parts).map sectionText))).head?, isTitle line = true := by
    rw [head?_splitAtNewlines_join hnext parts]
    rintro _ ⟨⟩
    exact hnext.isTitle
  -- The blank line before the next section belongs to the body.
  have hbody : ∀ line ∈ splitAtNewlines part.2 ++ [[]], isTitle line = false := by
    rw [List.forall_mem_append]
    exact ⟨hpart.body.untitled, List.forall_mem_singleton.mpr rfl⟩
  have hlines : splitAtNewlines (join "\n\n" ((part :: next :: parts).map sectionText)) =
      titleLine part.1 :: ((splitAtNewlines part.2 ++ [[]]) ++
        splitAtNewlines (join "\n\n" ((next :: parts).map sectionText))) := by
    rw [List.map_cons, List.map_cons, join_cons_cons, splitAtNewlines_append_blank,
      hpart.splitAtNewlines, List.append_assoc]
    rfl
  have htrim : trim (part.2 ++ [('\n' : CodePoint)]) = part.2 := by
    apply hpart.body.framed.trim_append
    exact List.forall_mem_singleton.mpr (by decide)
  rw [readSections, hlines, sectionLines_section hpart.isTitle hbody hfirst, List.map_cons,
    join_lines_append_nil, htrim]
  rfl

/-- The sections of a document are read back. -/
theorem readSections_join (h : ∀ part ∈ parts, IsSection part) :
    readSections (join "\n\n" (parts.map sectionText)) =
      parts.map fun part => (titleLine part.1, part.2) := by
  induction parts with
  | nil => rfl
  | cons part parts ih =>
    rw [List.forall_mem_cons] at h
    obtain ⟨hpart, hparts⟩ := h
    cases parts with
    | nil =>
      rw [List.map_singleton, join, List.intercalate_singleton]
      exact readSections_sectionText hpart
    | cons next parts =>
      rw [readSections_join_cons_cons hpart (hparts next List.mem_cons_self), ih hparts]
      rfl

/-- A line in front of a document is a section without a body. -/
theorem readSections_append {first : Text} (hline : IsLine first)
    (hletter : first.head?.any CodePoint.isAsciiLetter = true)
    (h : ∀ part ∈ parts, IsSection part) (hne : parts ≠ []) :
    readSections (first ++ (ofString "\n\n" ++ join "\n\n" (parts.map sectionText))) =
      (first, []) :: parts.map fun part => (titleLine part.1, part.2) := by
  obtain ⟨part, others, rfl⟩ := List.exists_cons_of_ne_nil hne
  have hbody : ∀ line ∈ [([] : Text)], isTitle line = false := List.forall_mem_singleton.mpr rfl
  have hlines : splitAtNewlines (first ++ (ofString "\n\n" ++
      join "\n\n" ((part :: others).map sectionText))) = first ::
        ([[]] ++ splitAtNewlines (join "\n\n" ((part :: others).map sectionText))) := by
    rw [splitAtNewlines_append_blank, splitAtNewlines_of_isLine hline]
    rfl
  rw [readSections, hlines, sectionLines_section (isTitle_of_letter hletter) hbody, List.map_cons]
  · exact congrArg _ (readSections_join h)
  · rw [head?_splitAtNewlines_join (h part List.mem_cons_self) others]
    rintro _ ⟨⟩
    exact (h part List.mem_cons_self).isTitle

end Report

variable {items : List Text} {t item : Text} {r : Report} {allClear : Text}
  {bucket : Severity × List Text} {buckets : List (Severity × List Text)}

namespace Text

theorem bulletList_eq (items : List Text) :
    bulletList items = join "\n" (items.map (ofString "- " ++ ·)) := by
  simp only [bulletList, concat_cons, concat_nil, List.append_nil]

theorem isLine_bullet (h : IsLine item) : IsLine (ofString "- " ++ item) :=
  (isLine_ofString (l := ['-', ' ']) rfl).append h

theorem framed_bulletList (h : ∀ item ∈ items, IsItem item) (hne : items ≠ []) :
    Framed (bulletList items) := by
  rw [bulletList_eq]
  apply framed_join
  · rw [List.forall_mem_map]
    intro item hitem
    exact ⟨head_append (by decide), last_append (h item hitem).last⟩
  · exact fun hnil => hne (List.map_eq_nil_iff.mp hnil)

theorem splitAtNewlines_bulletList (h : ∀ item ∈ items, IsItem item) (hne : items ≠ []) :
    splitAtNewlines (bulletList items) = items.map (ofString "- " ++ ·) := by
  rw [bulletList_eq]
  apply splitAtNewlines_join
  · rw [List.forall_mem_map]
    exact fun item hitem => isLine_bullet (h item hitem).line
  · exact fun hnil => hne (List.map_eq_nil_iff.mp hnil)

end Text

namespace Report

/-! ## Lists of items -/

theorem isTitle_bullet (item : Text) : isTitle (ofString "- " ++ item) = false := by
  have hdash : startsWith (ofString "- " ++ item) "- " = true := by
    rw [startsWith, List.isPrefixOf_iff_prefix]
    exact List.prefix_append _ _
  rw [isTitle, hdash, Bool.not_true, Bool.and_false, Bool.false_and]

theorem isBody_bulletList (h : ∀ item ∈ items, IsItem item) (hne : items ≠ []) :
    IsBody (bulletList items) where
  framed := framed_bulletList h hne
  untitled := by
    rw [splitAtNewlines_bulletList h hne, List.forall_mem_map]
    exact fun item _ => isTitle_bullet item

/-! ## Blocks -/

def block (bucket : Severity × List Text) : Text :=
  concat [bucket.1.heading, "\n", bulletList bucket.2]

theorem renderBucket_eq (bucket : Severity × List Text) :
    renderBucket bucket = block bucket ++ ofString "\n" := by
  simp only [renderBucket, block, concat_cons, concat_nil, List.append_nil, List.append_assoc]

theorem isLine_heading (severity : Severity) : IsLine severity.heading := by
  cases severity <;> exact isLine_ofString rfl

theorem isTitle_heading (severity : Severity) : isTitle severity.heading = false := by
  cases severity <;> decide

theorem isBody_block (h : ∀ item ∈ bucket.2, IsItem item) (hne : bucket.2 ≠ []) :
    IsBody (block bucket) where
  framed := by
    have hlist := framed_bulletList h hne
    rw [block, concat_cons, concat_cons, concat_cons, concat_nil, List.append_nil]
    refine ⟨head_append ?_, last_append (last_append hlist.last)⟩
    cases bucket.1 <;> decide
  untitled := by
    have hlines : splitAtNewlines (block bucket) =
        ofString bucket.1.heading :: splitAtNewlines (bulletList bucket.2) := by
      have hblock : block bucket =
          ofString bucket.1.heading ++ ('\n' : CodePoint) :: bulletList bucket.2 := by
        rw [block, concat_cons, concat_cons, concat_cons, concat_nil, List.append_nil]
        rfl
      rw [hblock, splitAtNewlines_append, splitAtNewlines_of_isLine (isLine_heading _)]
      rfl
    rw [hlines, List.forall_mem_cons]
    exact ⟨isTitle_heading bucket.1, (isBody_bulletList h hne).untitled⟩

theorem isBody_join {ts : List Text} (h : ∀ t ∈ ts, IsBody t) (hne : ts ≠ []) :
    IsBody (join "\n\n" ts) where
  framed := framed_join (fun t ht => (h t ht).framed) hne
  untitled := by
    intro line hline
    rcases mem_splitAtNewlines_join hline with rfl | ⟨t, ht, hline⟩
    · rfl
    · exact (h t ht).untitled line hline

theorem join_renderBucket (hne : buckets ≠ []) : join "\n" (buckets.map renderBucket) =
    join "\n\n" (buckets.map block) ++ ofString "\n" := by
  have hfeeds : ofString "\n\n" = ofString "\n" ++ ofString "\n" := rfl
  induction buckets with
  | nil => exact absurd rfl hne
  | cons bucket buckets ih =>
    cases buckets with
    | nil =>
      rw [List.map_singleton, List.map_singleton, join, join, List.intercalate_singleton,
        List.intercalate_singleton, renderBucket_eq]
    | cons next buckets =>
      have hrest := ih (List.cons_ne_nil next buckets)
      rw [List.map_cons, List.map_cons] at hrest
      rw [List.map_cons, List.map_cons, List.map_cons, List.map_cons, join_cons_cons,
        join_cons_cons, hrest, renderBucket_eq, hfeeds]
      simp only [List.append_assoc]

/-! ## Reports -/

theorem isItem_of_mem_buckets (h : ∀ f ∈ r.findings, IsItem f.message)
    (hbucket : bucket ∈ r.buckets) : bucket.2 ≠ [] ∧ ∀ item ∈ bucket.2, IsItem item := by
  obtain ⟨hmem, hne⟩ := List.mem_filter.mp hbucket
  obtain ⟨severity, -, rfl⟩ := List.mem_map.mp hmem
  refine ⟨by simpa using hne, ?_⟩
  intro item hitem
  obtain ⟨f, hf, rfl⟩ := List.mem_map.mp hitem
  exact h f (List.mem_filter.mp hf).1

theorem isBody_blocks (h : ∀ f ∈ r.findings, IsItem f.message) (hne : r.buckets ≠ []) :
    IsBody (join "\n\n" (r.buckets.map block)) := by
  apply isBody_join
  · rw [List.forall_mem_map]
    intro bucket hbucket
    obtain ⟨hitems, hall⟩ := isItem_of_mem_buckets h hbucket
    exact isBody_block hall hitems
  · exact fun hmap => hne (List.map_eq_nil_iff.mp hmap)

/-- A report of items is written block by block, or as what is said of a report without
findings. -/
theorem render_of_isItem (h : ∀ f ∈ r.findings, IsItem f.message) (hsummary : r.summary = []) :
    r.render allClear =
      if r.buckets = [] then bulletList [allClear] else join "\n\n" (r.buckets.map block) := by
  rw [render]
  simp only [hsummary, List.isEmpty_nil, if_true]
  by_cases hnil : r.buckets = []
  · rw [hnil]
    rfl
  · have hblocks := isBody_blocks h hnil
    have htrim : trim (join "\n" (r.buckets.map renderBucket)) =
        join "\n\n" (r.buckets.map block) := by
      rw [join_renderBucket hnil]
      exact hblocks.framed.trim_append (by decide)
    rw [htrim, if_neg hnil, if_neg]
    simpa using hblocks.framed.ne_nil

theorem isBody_render (h : ∀ f ∈ r.findings, IsItem f.message) (hsummary : r.summary = [])
    (hclear : IsItem allClear) : IsBody (r.render allClear) := by
  rw [render_of_isItem h hsummary]
  by_cases hnil : r.buckets = []
  · rw [if_pos hnil]
    exact isBody_bulletList (List.forall_mem_singleton.mpr hclear) (List.cons_ne_nil _ _)
  · rw [if_neg hnil]
    exact isBody_blocks h hnil

end Report

end ZigAdvisor
