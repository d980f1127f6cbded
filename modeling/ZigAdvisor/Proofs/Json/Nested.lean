import ZigAdvisor.Json.Writer
import ZigAdvisor.Proofs.Json.Readable
import ZigAdvisor.Proofs.Service.Outcomes

/-!
# Values that are nested only so deep

What a reader with a limit yields is nested within it, whatever the text holds, and a writer with a
limit writes a value to its end exactly if it is nested within it. So a writer never fails on what
was read, if it goes as deep as the reader. Where it gives up, it leaves the beginning of what it
should have written.
-/

namespace ZigAdvisor.Json

variable {α : Type} {depth : ℕ} {j value : Json} {layout : Layout} {t u rest : Text}

/-- Whether arrays and objects are nested at most `depth` deep in a value. -/
def Within : ℕ → Json → Prop
  | 0, arr _ | 0, obj _ => False
  | depth + 1, arr items => ∀ item ∈ items, Within depth item
  | depth + 1, obj members => ∀ m ∈ members, Within depth m.2
  | _, _ => True

@[simp] theorem within_null : Within depth null := by cases depth <;> trivial

@[simp] theorem within_bool (b : Bool) : Within depth (bool b) := by cases depth <;> trivial

@[simp] theorem within_int (i : ℤ) : Within depth (int i) := by cases depth <;> trivial

@[simp] theorem within_float (d : Double) : Within depth (float d) := by cases depth <;> trivial

@[simp] theorem within_str (t : Text) : Within depth (str t) := by cases depth <;> trivial

theorem Within.succ (h : Within depth j) : Within (depth + 1) j := by
  induction depth generalizing j with
  | zero =>
    cases j with
    | arr items => exact h.elim
    | obj members => exact h.elim
    | _ => trivial
  | succ depth ih =>
    cases j with
    | arr items => exact fun item hitem => ih (h item hitem)
    | obj members => exact fun m hm => ih (h m hm)
    | _ => trivial

theorem Within.mono {depth' : ℕ} (h : Within depth j) (hle : depth ≤ depth') :
    Within depth' j := by
  induction hle with
  | refl => exact h
  | step _ ih => exact ih.succ

theorem Readable.within {P : Double → Prop} (h : Readable P depth j) : Within depth j := by
  induction h with
  | arr _ ih => exact ih
  | obj _ _ _ ih => exact ih
  | _ => simp

theorem Within.of_find? {members : List (Text × Json)} {key : Text}
    (h : Within (depth + 1) (obj members)) (hj : find? members key = some j) : Within depth j :=
  h _ (mem_of_find? hj)

theorem Within.of_mem_items {items : List Json} (h : Within depth (arr items)) (hj : j ∈ items) :
    Within depth j := by
  cases depth with
  | zero => exact h.elim
  | succ depth => exact (h j hj).succ

theorem Within.put {members : List (Text × Json)} {key : Text}
    (h : Within (depth + 1) (obj members)) (hvalue : Within depth value) :
    Within (depth + 1) (obj (put key value members)) :=
  forall_mem_put hvalue h

theorem Within.erase {members : List (Text × Json)} (h : Within depth (obj members))
    (key : Text) : Within depth (obj (erase key members)) := by
  cases depth with
  | zero => exact h
  | succ depth => exact fun m hm => h m (List.mem_of_mem_filter hm)

/-! ## What is read -/

section Reading

variable {Q : α → Prop} {readItem : Text → Reading α} {close : CodePoint}

theorem forall_mem_of_readItems (hread : ∀ t a rest, readItem t = .ok (a, rest) → Q a) {most : ℕ}
    {items : List α} (h : readItems readItem close most t = .ok (items, rest)) :
    ∀ a ∈ items, Q a := by
  induction most generalizing t items rest with
  | zero => cases h
  | succ most ih =>
    rw [readItems] at h
    split at h
    · cases h
    · next a behind hitem =>
      split at h
      · cases h
      · split_ifs at h
        · obtain ⟨rfl, -⟩ := Prod.mk.inj (Except.ok.inj h)
          exact List.forall_mem_singleton.mpr (hread _ _ _ hitem)
        · obtain ⟨⟨others, further⟩, hothers, hpair⟩ := Except.map_eq_ok.mp h
          obtain ⟨rfl, -⟩ := Prod.mk.inj hpair
          exact List.forall_mem_cons.mpr ⟨hread _ _ _ hitem, ih hothers⟩

theorem forall_mem_of_readEnclosed (hread : ∀ t a rest, readItem t = .ok (a, rest) → Q a)
    {items : List α} (h : readEnclosed readItem close t = .ok (items, rest)) :
    ∀ a ∈ items, Q a := by
  unfold readEnclosed at h
  split at h
  · exact forall_mem_of_readItems hread h
  · split_ifs at h
    · obtain ⟨rfl, -⟩ := Prod.mk.inj (Except.ok.inj h)
      exact List.forall_mem_nil _
    · exact forall_mem_of_readItems hread h

theorem of_readMember {Q : Json → Prop} {readValue : Text → Reading Json} {m : Text × Json}
    (hread : ∀ t j rest, readValue t = .ok (j, rest) → Q j)
    (h : readMember readValue t = .ok (m, rest)) : Q m.2 := by
  unfold readMember at h
  split at h
  · cases h
  · split_ifs at h
    split at h
    · cases h
    · split at h
      · cases h
      · split_ifs at h
        obtain ⟨⟨j, behind⟩, hvalue, hpair⟩ := Except.map_eq_ok.mp h
        obtain ⟨rfl, -⟩ := Prod.mk.inj hpair
        exact hread _ _ _ hvalue

end Reading

theorem within_of_readUnsigned {negative : Bool} {start : Text}
    (h : readUnsigned negative start t = .ok (j, rest)) : Within depth j := by
  unfold readUnsigned at h
  dsimp only at h
  split_ifs at h
  all_goals
    obtain ⟨rfl, -⟩ := Prod.mk.inj (Except.ok.inj h)
    simp

theorem within_of_mem_words {w : Text × Json} (h : w ∈ words) : Within depth w.2 := by
  simp only [words, List.mem_cons, List.not_mem_nil, or_false] at h
  rcases h with rfl | rfl | rfl | rfl | rfl | rfl <;> simp

theorem within_of_readScalar (h : readScalar t = .ok (j, rest)) : Within depth j := by
  unfold readScalar at h
  split at h
  · cases h
  · split at h
    · obtain ⟨⟨s, behind⟩, -, hpair⟩ := Except.map_eq_ok.mp h
      obtain ⟨rfl, -⟩ := Prod.mk.inj hpair
      exact within_str s
    · split at h
      · next hfind =>
        obtain ⟨rfl, -⟩ := Prod.mk.inj (Except.ok.inj h)
        exact within_of_mem_words (List.mem_of_find?_eq_some hfind)
      · unfold readNumber at h
        split at h
        · cases h
        · split at h <;> exact within_of_readUnsigned h

theorem within_collect {members : List (Text × Json)} (h : ∀ m ∈ members, Within depth m.2) :
    Within (depth + 1) (obj (collect members)) :=
  forall_mem_collect h

/-- A reader that goes `depth` deep yields nothing that is nested deeper. -/
theorem within_of_readValue (h : readValue depth t = .ok (j, rest)) : Within depth j := by
  induction depth generalizing t j rest with
  | zero =>
    cases t with
    | nil => exact within_of_readScalar h
    | cons c t =>
      rw [readValue] at h
      split_ifs at h
      exact within_of_readScalar h
  | succ depth ih =>
    cases t with
    | nil => exact within_of_readScalar h
    | cons c t =>
      rw [readValue] at h
      split_ifs at h
      · obtain ⟨⟨items, behind⟩, hitems, hpair⟩ := Except.map_eq_ok.mp h
        obtain ⟨rfl, -⟩ := Prod.mk.inj hpair
        exact forall_mem_of_readEnclosed (fun _ _ _ => ih) hitems
      · obtain ⟨⟨members, behind⟩, hmembers, hpair⟩ := Except.map_eq_ok.mp h
        obtain ⟨rfl, -⟩ := Prod.mk.inj hpair
        exact within_collect
          (forall_mem_of_readEnclosed (fun _ _ _ => of_readMember fun _ _ _ => ih) hmembers)
      · exact within_of_readScalar h

theorem within_of_parse (h : parse t depth = .ok j) : Within depth j := by
  unfold parse at h
  split at h
  · cases h
  · next hread =>
    split at h
    · obtain rfl := Except.ok.inj h
      exact within_of_readValue hread
    · cases h

theorem within_of_parseText (h : parseText t depth = .ok j) : Within depth j := by
  unfold parseText at h
  split at h
  · cases h
  · exact within_of_parse h

/-! ## What is written -/

namespace Written

variable {w v : Written} {ws : List Written}

@[simp] theorem complete_ofText (t : Text) : (ofText t).complete = true := rfl

@[simp] theorem complete_andThen : (w.andThen v).complete = (w.complete && v.complete) := by
  unfold andThen
  cases h : w.complete <;> simp [h]

theorem complete_concat : (concat ws).complete = ws.all complete := by
  induction ws with
  | nil => rfl
  | cons w ws ih => rw [List.all_cons, ← ih, ← complete_andThen, concat, concat, List.foldr_cons]

/-- Whether a writer that should have written a text began to, and wrote all of it if it came to the
end. -/
structure Begins (w : Written) (t : Text) : Prop where
  isStart : w.text <+: t
  text_eq : w.complete = true → w.text = t

theorem begins_ofText (t : Text) : (ofText t).Begins t := ⟨List.prefix_rfl, fun _ => rfl⟩

theorem begins_nil (t : Text) : Begins ⟨[], false⟩ t := ⟨List.nil_prefix, nofun⟩

theorem Begins.andThen (h : w.Begins t) (h' : v.Begins u) : (w.andThen v).Begins (t ++ u) := by
  unfold Written.andThen
  split
  · next hw =>
    rw [h.text_eq hw]
    exact ⟨(List.prefix_append_right_inj t).mpr h'.isStart, fun hv => by rw [h'.text_eq hv]⟩
  · next hw => exact ⟨h.isStart.trans (List.prefix_append t u), fun hw' => absurd hw' hw⟩

theorem begins_concat_nil : (concat []).Begins (Text.concat []) := begins_ofText []

theorem Begins.cons {ts : List Text} (h : w.Begins t) (hs : (concat ws).Begins (Text.concat ts)) :
    (concat (w :: ws)).Begins (Text.concat (t :: ts)) := by
  rw [Text.concat_cons]
  exact h.andThen hs

end Written

open Written (begins_ofText begins_nil begins_concat_nil complete_concat complete_ofText)

theorem begins_writeItemsWithin {items : List Json}
    (h : ∀ item ∈ items, (writeWithin layout depth item).Begins (write layout item)) :
    (writeItemsWithin layout depth items).Begins (writeItems layout items) := by
  induction items with
  | nil => exact begins_ofText []
  | cons item items ih =>
    obtain ⟨hitem, hitems⟩ := List.forall_mem_cons.mp h
    rw [writeItemsWithin, writeItems]
    exact (begins_ofText _).cons (hitem.cons ((ih hitems).cons begins_concat_nil))

theorem begins_writeMembersWithin {members : List (Text × Json)}
    (h : ∀ m ∈ members, (writeWithin layout depth m.2).Begins (write layout m.2)) :
    (writeMembersWithin layout depth members).Begins (writeMembers layout members) := by
  induction members with
  | nil => exact begins_ofText []
  | cons m members ih =>
    obtain ⟨hm, hmembers⟩ := List.forall_mem_cons.mp h
    rw [writeMembersWithin, writeMembers]
    exact (begins_ofText _).cons ((begins_ofText _).cons ((begins_ofText _).cons
      (hm.cons ((ih hmembers).cons begins_concat_nil))))

/-- What is written before the writer gives up is the beginning of the value. -/
theorem begins_writeWithin (layout : Layout) (depth : ℕ) (j : Json) :
    (writeWithin layout depth j).Begins (write layout j) := by
  induction depth generalizing layout j with
  | zero =>
    cases j with
    | arr items => exact begins_nil _
    | obj members => exact begins_nil _
    | _ => exact begins_ofText _
  | succ depth ih =>
    cases j with
    | arr items =>
      cases items with
      | nil => exact begins_ofText _
      | cons item items =>
        have hitems := begins_writeItemsWithin fun j (_ : j ∈ items) => ih layout.deeper j
        rw [writeWithin, write]
        exact (begins_ofText _).cons ((begins_ofText _).cons ((ih _ item).cons
          (hitems.cons ((begins_ofText _).cons ((begins_ofText _).cons begins_concat_nil)))))
    | obj members =>
      cases members with
      | nil => exact begins_ofText _
      | cons m members =>
        have hmembers :=
          begins_writeMembersWithin fun m (_ : m ∈ members) => ih layout.deeper m.2
        rw [writeWithin, write]
        exact (begins_ofText _).cons ((begins_ofText _).cons ((begins_ofText _).cons
          ((begins_ofText _).cons ((ih _ m.2).cons (hmembers.cons ((begins_ofText _).cons
            ((begins_ofText _).cons begins_concat_nil)))))))
    | _ => exact begins_ofText _

theorem complete_writeItemsWithin {items : List Json} :
    (writeItemsWithin layout depth items).complete = true ↔
      ∀ item ∈ items, (writeWithin layout depth item).complete = true := by
  induction items with
  | nil => simp [writeItemsWithin]
  | cons item items ih => simp [writeItemsWithin, complete_concat, ih]

theorem complete_writeMembersWithin {members : List (Text × Json)} :
    (writeMembersWithin layout depth members).complete = true ↔
      ∀ m ∈ members, (writeWithin layout depth m.2).complete = true := by
  induction members with
  | nil => simp [writeMembersWithin]
  | cons m members ih => simp [writeMembersWithin, complete_concat, ih]

/-- A writer that goes `depth` deep comes to the end exactly if nothing is nested deeper. -/
theorem complete_writeWithin_iff :
    (writeWithin layout depth j).complete = true ↔ Within depth j := by
  induction depth generalizing layout j with
  | zero =>
    cases j with
    | arr items => exact iff_of_false nofun id
    | obj members => exact iff_of_false nofun id
    | _ => exact iff_of_true rfl trivial
  | succ depth ih =>
    cases j with
    | arr items =>
      cases items with
      | nil => exact iff_of_true rfl (List.forall_mem_nil _)
      | cons item items =>
        simp [writeWithin, complete_concat, complete_writeItemsWithin, ih, Within]
    | obj members =>
      cases members with
      | nil => exact iff_of_true rfl (List.forall_mem_nil _)
      | cons m members =>
        simp [writeWithin, complete_concat, complete_writeMembersWithin, ih, Within]
    | _ => exact iff_of_true rfl trivial

instance : Decidable (Within depth j) :=
  decidable_of_iff ((writeWithin .oneLine depth j).complete = true) complete_writeWithin_iff

theorem writeWithin_of_within (h : Within depth j) :
    writeWithin layout depth j = ⟨write layout j, true⟩ := by
  have hcomplete : (writeWithin layout depth j).complete = true := complete_writeWithin_iff.mpr h
  have htext := (begins_writeWithin layout depth j).text_eq hcomplete
  rw [← htext, ← hcomplete]

end ZigAdvisor.Json
