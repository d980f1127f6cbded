import ZigAdvisor.Proofs.Report.Sections

/-!
# Reading buckets back

A rendered report says which findings it holds. Its lines are headings, items behind a dash and
blank lines between the buckets, and no item looks like a heading, so the buckets can be read back
from them (`readBuckets_render`). The sentence of a report without findings is an item under no
heading. Two reports are therefore rendered alike exactly if their buckets are the same, whatever
the order in which their findings were added (`render_faithful`).
-/

namespace ZigAdvisor

open Text

namespace Severity

theorem heading_injective : Function.Injective heading := by
  intro s t
  cases s <;> cases t <;> decide

theorem mem_all (s : Severity) : s ∈ all := by
  cases s <;> decide

end Severity

namespace Report

variable {s : Severity} {line item allClear : Text} {items ls : List Text} {r : Report}
  {bucket : Severity × List Text} {buckets : List (Severity × List Text)}
  {title title' : Text} {adds adds' : List (Severity × Text)}

/-! ## The reader -/

def headed? (line : Text) : Option Severity :=
  Severity.all.find? fun s => ofString s.heading == line

def item? (line : Text) : Option Text := if startsWith line "- " then some (line.drop 2) else none

/-- The items in front of the first heading, and each severity with the items under its heading. -/
def bucketLines : List Text → List Text × List (Severity × List Text)
  | [] => ([], [])
  | line :: rest =>
    match headed? line with
    | some s => ([], (s, (bucketLines rest).1) :: (bucketLines rest).2)
    | none => ((item? line).toList ++ (bucketLines rest).1, (bucketLines rest).2)

def readBuckets (text : Text) : List (Severity × List Text) :=
  (bucketLines (splitAtNewlines text)).2

theorem headed?_eq_some : headed? line = some s ↔ line = s.heading :=
  find?_ofString_eq_some Severity.heading_injective Severity.mem_all

theorem headed?_eq_none (h : ∀ s : Severity, line ≠ s.heading) : headed? line = none := by
  rw [Option.eq_none_iff_forall_ne_some]
  intro s hs
  exact h s (headed?_eq_some.mp hs)

theorem headed?_bullet (item : Text) : headed? (ofString "- " ++ item) = none := by
  apply headed?_eq_none
  intro s hs
  have hdash : ('-' : CodePoint) ∈ (ofString s.heading).head? := by
    rw [← hs]
    rfl
  revert hdash
  cases s <;> decide

theorem item?_bullet (item : Text) : item? (ofString "- " ++ item) = some item := by
  have hdash : startsWith (ofString "- " ++ item) "- " = true := by
    rw [startsWith, List.isPrefixOf_iff_prefix]
    exact List.prefix_append _ _
  rw [item?, if_pos hdash]
  rfl

theorem bucketLines_heading (s : Severity) (ls : List Text) :
    bucketLines (ofString s.heading :: ls) =
      ([], (s, (bucketLines ls).1) :: (bucketLines ls).2) := by
  rw [bucketLines, headed?_eq_some.mpr rfl]

theorem bucketLines_blank (ls : List Text) : bucketLines ([] :: ls) = bucketLines ls := by
  have hblank : headed? [] = none := headed?_eq_none fun s => by cases s <;> decide
  rw [bucketLines, hblank]
  rfl

theorem bucketLines_items (items ls : List Text) :
    bucketLines (items.map (ofString "- " ++ ·) ++ ls) =
      (items ++ (bucketLines ls).1, (bucketLines ls).2) := by
  induction items with
  | nil => rfl
  | cons item items ih =>
    rw [List.map_cons, List.cons_append, bucketLines, headed?_bullet, item?_bullet, ih]
    rfl

/-! ## The lines of a report -/

theorem bulletList_singleton (item : Text) : bulletList [item] = ofString "- " ++ item := by
  rw [bulletList_eq, List.map_singleton, join, List.intercalate_singleton]

theorem splitAtNewlines_block (h : ∀ item ∈ bucket.2, IsItem item) (hne : bucket.2 ≠ []) :
    splitAtNewlines (block bucket) =
      ofString bucket.1.heading :: bucket.2.map (ofString "- " ++ ·) := by
  have hblock : block bucket =
      ofString bucket.1.heading ++ ('\n' : CodePoint) :: bulletList bucket.2 := by
    rw [block, concat_cons, concat_cons, concat_cons, concat_nil, List.append_nil]
    rfl
  rw [hblock, splitAtNewlines_append, splitAtNewlines_of_isLine (isLine_heading _),
    splitAtNewlines_bulletList h hne]
  rfl

/-- The blocks of some buckets read as these buckets. -/
theorem bucketLines_join (h : ∀ bucket ∈ buckets, bucket.2 ≠ [] ∧ ∀ item ∈ bucket.2, IsItem item) :
    (bucketLines (splitAtNewlines (join "\n\n" (buckets.map block)))) = ([], buckets) := by
  induction buckets with
  | nil => exact bucketLines_blank []
  | cons bucket buckets ih =>
    rw [List.forall_mem_cons] at h
    obtain ⟨⟨hne, hitems⟩, hbuckets⟩ := h
    cases buckets with
    | nil =>
      have hlist := bucketLines_items bucket.2 []
      rw [List.append_nil] at hlist
      rw [List.map_singleton, join, List.intercalate_singleton, splitAtNewlines_block hitems hne,
        bucketLines_heading, hlist]
      simp [bucketLines]
    | cons next buckets =>
      rw [List.map_cons, List.map_cons, join_cons_cons, splitAtNewlines_append_blank,
        splitAtNewlines_block hitems hne, List.cons_append, bucketLines_heading, bucketLines_items,
        bucketLines_blank, ← List.map_cons, ih hbuckets, List.append_nil]

/-- The buckets of a report of items are read back. -/
theorem readBuckets_render (h : ∀ f ∈ r.findings, IsItem f.message) (hsummary : r.summary = [])
    (hclear : IsLine allClear) : readBuckets (r.render allClear) = r.buckets := by
  rw [readBuckets, render_of_isItem h hsummary]
  by_cases hnil : r.buckets = []
  · rw [if_pos hnil, bulletList_singleton, splitAtNewlines_of_isLine (isLine_bullet hclear), hnil,
      bucketLines, headed?_bullet]
    rfl
  · rw [if_neg hnil, bucketLines_join fun bucket hbucket => isItem_of_mem_buckets h hbucket]

/-- No report is rendered as an empty text. -/
theorem render_ne_nil (r : Report) (allClear : Text) : r.render allClear ≠ [] := by
  simp only [render]
  generalize (if r.summary.isEmpty then _ else _ : Text) = text
  by_cases hempty : text.isEmpty
  · rw [if_pos hempty, bulletList_singleton]
    exact List.cons_ne_nil _ _
  · rw [if_neg hempty]
    exact fun hnil => hempty (List.isEmpty_iff.mpr hnil)

/-! ## Findings by severity -/

def ofAdds (title : Text) (adds : List (Severity × Text)) : Report :=
  adds.foldl (fun r a => r.add a.1 a.2) (empty title)

theorem ofAdds_concat (title : Text) (adds : List (Severity × Text)) (a : Severity × Text) :
    ofAdds title (adds ++ [a]) = (ofAdds title adds).add a.1 a.2 := List.foldl_concat ..

theorem findings_ofAdds (title : Text) (adds : List (Severity × Text)) :
    (ofAdds title adds).findings = adds.map fun a => ⟨a.1, a.2⟩ := by
  induction adds using List.reverseRecOn with
  | nil => rfl
  | append_singleton adds a ih =>
    rw [ofAdds_concat, add, List.map_append, ih]
    rfl

theorem summary_ofAdds (title : Text) (adds : List (Severity × Text)) :
    (ofAdds title adds).summary = [] := by
  induction adds using List.reverseRecOn with
  | nil => rfl
  | append_singleton adds a ih => rw [ofAdds_concat, add, ih]

theorem messagesOf_ofAdds (title : Text) (adds : List (Severity × Text)) (s : Severity) :
    (ofAdds title adds).messagesOf s = (adds.filter (·.1 = s)).map Prod.snd := by
  rw [messagesOf, findings_ofAdds, List.filter_map, List.map_map]
  rfl

theorem isItem_ofAdds (h : ∀ a ∈ adds, IsItem a.2) :
    ∀ f ∈ (ofAdds title adds).findings, IsItem f.message := by
  rw [findings_ofAdds, List.forall_mem_map]
  exact h

theorem lookup_map {α : Type} {f : Severity → α} {p : Severity × α → Bool} {s : Severity}
    (keys : List Severity) : ((keys.map fun k => (k, f k)).filter p).lookup s =
      if s ∈ keys ∧ p (s, f s) then some (f s) else none := by
  induction keys with
  | nil => rfl
  | cons key keys ih =>
    rw [List.map_cons, List.filter_cons]
    by_cases hkey : s = key
    · subst hkey
      by_cases hp : p (s, f s) = true
      · rw [if_pos hp, List.lookup_cons_self, if_pos ⟨List.mem_cons_self, hp⟩]
      · rw [if_neg hp, ih, if_neg fun h => hp h.2, if_neg fun h => hp h.2]
    · have hmem : s ∈ key :: keys ↔ s ∈ keys := by simp [hkey]
      simp only [hmem, ← ih]
      split
      · rw [List.lookup_cons, beq_false_of_ne hkey]
      · rfl

/-- The bucket of a severity holds its messages. -/
theorem messagesOf_eq_lookup (r : Report) (s : Severity) :
    r.messagesOf s = (r.buckets.lookup s).getD [] := by
  rw [buckets, lookup_map]
  by_cases hnil : r.messagesOf s = []
  · rw [hnil, if_neg fun h => Bool.false_ne_true h.2]
    rfl
  · have hbucket : s ∈ Severity.all ∧ (!(r.messagesOf s).isEmpty) = true :=
      ⟨s.mem_all, by simpa using hnil⟩
    rw [if_pos hbucket, Option.getD_some]

theorem map_fst_buckets (r : Report) : r.buckets.map Prod.fst =
    Severity.all.filter fun s => !(r.messagesOf s).isEmpty := by
  rw [buckets, List.filter_map, List.map_map]
  exact List.map_id' _

/-- Reports with the same messages of each severity have the same buckets. -/
theorem buckets_eq_iff {r r' : Report} :
    r.buckets = r'.buckets ↔ ∀ s, r.messagesOf s = r'.messagesOf s := by
  constructor
  · intro h s
    rw [messagesOf_eq_lookup, h, ← messagesOf_eq_lookup]
  · intro h
    simp only [buckets, h]

theorem perm_flatMap_filter (adds : List (Severity × Text)) :
    (Severity.all.flatMap fun s => adds.filter (·.1 = s)).Perm adds := by
  rw [List.perm_iff_count]
  rintro ⟨s, message⟩
  rw [List.count_flatMap]
  have hcount (k : Severity) : (adds.filter (·.1 = k)).count (s, message) =
      if k = s then adds.count (s, message) else 0 := by
    by_cases hk : k = s
    · rw [if_pos hk, List.count_filter (by simp [hk])]
    · rw [if_neg hk, List.count_eq_zero]
      intro hmem
      have hs := (List.mem_filter.mp hmem).2
      exact hk (of_decide_eq_true hs).symm
  simp only [Function.comp_def, hcount]
  cases s <;> simp [Severity.all]

theorem flatMap_filter_of_eq_nil {α β : Type} {p : α → Bool} {g : α → List β}
    (h : ∀ a, p a = false → g a = []) (l : List α) : (l.filter p).flatMap g = l.flatMap g := by
  induction l with
  | nil => rfl
  | cons a l ih =>
    rw [List.filter_cons, List.flatMap_cons]
    by_cases ha : p a = true
    · rw [if_pos ha, List.flatMap_cons, ih]
    · rw [if_neg ha, ih, h a (by simpa using ha), List.nil_append]

/-- Bucket by bucket, a report shows each of its findings once. -/
theorem perm_flatMap_buckets (title : Text) (adds : List (Severity × Text)) :
    ((ofAdds title adds).buckets.flatMap fun b => b.2.map (Prod.mk b.1)).Perm adds := by
  have hgroup (s : Severity) :
      ((ofAdds title adds).messagesOf s).map (Prod.mk s) = adds.filter (·.1 = s) := by
    rw [messagesOf_ofAdds, List.map_map]
    refine (List.map_congr_left fun a ha => ?_).trans (List.map_id' _)
    have hs : a.1 = s := of_decide_eq_true (List.mem_filter.mp ha).2
    rw [Function.comp_apply, ← hs]
  have hflat : ((ofAdds title adds).buckets.flatMap fun b => b.2.map (Prod.mk b.1)) =
      Severity.all.flatMap fun s => adds.filter (·.1 = s) := by
    rw [buckets, flatMap_filter_of_eq_nil fun b hb => by simpa using hb, List.flatMap_map]
    simp only [hgroup]
  rw [hflat]
  exact perm_flatMap_filter adds

/-! ## Rendering as an encoding -/

theorem readBuckets_ofAdds (title : Text) (h : ∀ a ∈ adds, IsItem a.2)
    (hclear : IsLine allClear) :
    readBuckets ((ofAdds title adds).render allClear) = (ofAdds title adds).buckets :=
  readBuckets_render (isItem_ofAdds h) (summary_ofAdds title adds) hclear

/-- What a rendered report shows of the findings that were added. -/
structure Shows (text : Text) (adds : List (Severity × Text)) : Prop where
  /-- Exactly the severities that occur, once each and in their order. -/
  severities : (readBuckets text).map Prod.fst =
    Severity.all.filter fun s => decide (∃ a ∈ adds, a.1 = s)
  /-- Under each severity its messages, in the order in which they were added. -/
  messages : ∀ s, ((readBuckets text).lookup s).getD [] =
    (adds.filter (·.1 = s)).map Prod.snd
  /-- Every finding once, under its severity. -/
  once : ((readBuckets text).flatMap fun b => b.2.map (Prod.mk b.1)).Perm adds

theorem shows_render (h : ∀ a ∈ adds, IsItem a.2) (hclear : IsLine allClear) :
    Shows ((ofAdds title adds).render allClear) adds := by
  have hread := readBuckets_ofAdds title h hclear
  refine ⟨?_, fun s => ?_, ?_⟩
  · rw [hread, map_fst_buckets]
    refine List.filter_congr fun s _ => ?_
    rw [messagesOf_ofAdds, List.isEmpty_map, Bool.eq_iff_iff]
    simp
  · rw [hread, ← messagesOf_eq_lookup, messagesOf_ofAdds]
  · rw [hread]
    exact perm_flatMap_buckets title adds

/-- Rendering keeps exactly the buckets of a report: two reports look alike if and only if their
buckets are the same. -/
theorem render_faithful (title title' : Text) (h : ∀ a ∈ adds, IsItem a.2)
    (h' : ∀ a ∈ adds', IsItem a.2) (hclear : IsLine allClear) :
    ((ofAdds title adds).render allClear = (ofAdds title' adds').render allClear ↔
      (ofAdds title adds).buckets = (ofAdds title' adds').buckets) ∧
    ((∀ s, adds.filter (·.1 = s) = adds'.filter (·.1 = s)) →
      (ofAdds title adds).render allClear = (ofAdds title' adds').render allClear) ∧
    readBuckets ((ofAdds title adds).render allClear) = (ofAdds title adds).buckets ∧
    Shows ((ofAdds title adds).render allClear) adds ∧
    (∀ (r : Report) (s : Severity), r.messagesOf s = (r.buckets.lookup s).getD []) ∧
    ∀ (r : Report) (clear : Text), r.render clear ≠ [] := by
  have hiff : (ofAdds title adds).render allClear = (ofAdds title' adds').render allClear ↔
      (ofAdds title adds).buckets = (ofAdds title' adds').buckets := by
    constructor
    · intro heq
      rw [← readBuckets_ofAdds title h hclear, ← readBuckets_ofAdds title' h' hclear, heq]
    · intro hbuckets
      rw [render_of_isItem (isItem_ofAdds h) (summary_ofAdds title adds),
        render_of_isItem (isItem_ofAdds h') (summary_ofAdds title' adds'), hbuckets]
  refine ⟨hiff, fun hsame => ?_, readBuckets_ofAdds title h hclear, shows_render h hclear,
    messagesOf_eq_lookup, render_ne_nil⟩
  rw [hiff, buckets_eq_iff]
  intro s
  rw [messagesOf_ofAdds, messagesOf_ofAdds, hsame s]

theorem render_faithful_mixed :
    let adds : List (Severity × Text) :=
      [(.strength, "uses defer"), (.critical, "catch unreachable"), (.strength, "uses errdefer")]
    let adds' : List (Severity × Text) :=
      [(.critical, "catch unreachable"), (.strength, "uses defer"), (.strength, "uses errdefer")]
    (∀ a ∈ adds, IsItem a.2) ∧ (∀ a ∈ adds', IsItem a.2) ∧ IsLine noIssues ∧
      (ofAdds "Mixed" adds).render noIssues = (ofAdds "Mixed" adds').render noIssues ∧
      Shows ((ofAdds "Mixed" adds).render noIssues) adds := by
  intro adds adds'
  have hdefer : IsItem (ofString "uses defer") := isItem_ofString rfl
  have hcatch : IsItem (ofString "catch unreachable") := isItem_ofString rfl
  have herrdefer : IsItem (ofString "uses errdefer") := isItem_ofString rfl
  have h : ∀ a ∈ adds, IsItem a.2 := by simp [adds, hdefer, hcatch, herrdefer]
  have h' : ∀ a ∈ adds', IsItem a.2 := by simp [adds', hdefer, hcatch, herrdefer]
  have hclear : IsLine noIssues := isLine_ofString rfl
  obtain ⟨-, hreordered, -, hshows, -⟩ :=
    render_faithful "Mixed" "Mixed" h h' hclear
  refine ⟨h, h', hclear, hreordered fun s => ?_, hshows⟩
  cases s <;> rfl

end Report

end ZigAdvisor
