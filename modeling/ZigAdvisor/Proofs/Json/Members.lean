import Mathlib.Tactic
import ZigAdvisor.Json.Basic

/-!
# Members of objects

Setting the value of a key and taking a key away are seen under that key alone.
-/

namespace ZigAdvisor.Json

variable {members : List (Text × Json)} {key key' : Text} {value : Json}

theorem find?_cons_self : find? ((key, value) :: members) key = some value := by
  rw [find?, List.lookup_cons_self]

theorem find?_cons_of_ne (h : key' ≠ key) :
    find? ((key, value) :: members) key' = find? members key' := by
  rw [find?, List.lookup_cons, beq_false_of_ne h, find?]

theorem mem_of_find? (h : find? members key = some value) : (key, value) ∈ members := by
  induction members with
  | nil => cases h
  | cons m members ih =>
    obtain ⟨k, v⟩ := m
    by_cases hk : key = k
    · subst hk
      rw [find?_cons_self] at h
      rw [Option.some.inj h]
      exact List.mem_cons_self
    · rw [find?_cons_of_ne hk] at h
      exact List.mem_cons_of_mem _ (ih h)

@[simp] theorem find?_put_self : find? (put key value members) key = some value := by
  induction members with
  | nil => exact find?_cons_self
  | cons m members ih =>
    obtain ⟨k, v⟩ := m
    rw [put]
    split_ifs with hk
    · rw [hk, find?_cons_self]
    · rw [find?_cons_of_ne (Ne.symm hk), ih]

theorem find?_put_of_ne (h : key' ≠ key) :
    find? (put key value members) key' = find? members key' := by
  induction members with
  | nil => exact find?_cons_of_ne h
  | cons m members ih =>
    obtain ⟨k, v⟩ := m
    rw [put]
    split_ifs with hk
    · subst hk
      rw [find?_cons_of_ne h, find?_cons_of_ne h]
    · by_cases hk' : key' = k
      · rw [hk', find?_cons_self, find?_cons_self]
      · rw [find?_cons_of_ne hk', find?_cons_of_ne hk', ih]

@[simp] theorem find?_erase_self : find? (erase key members) key = none := by
  rw [find?, List.lookup_eq_none_iff]
  intro m hm
  have hne : m.1 ≠ key := by simpa using (List.mem_filter.mp hm).2
  exact bne_iff_ne.mpr hne.symm

theorem find?_erase_of_ne (h : key' ≠ key) :
    find? (erase key members) key' = find? members key' := by
  induction members with
  | nil => rfl
  | cons m members ih =>
    obtain ⟨k, v⟩ := m
    rw [erase] at ih ⊢
    by_cases hk : k = key
    · rw [List.filter_cons_of_neg (by simpa using hk), ih, hk, find?_cons_of_ne h]
    · rw [List.filter_cons_of_pos (by simpa using hk)]
      by_cases hk' : key' = k
      · rw [hk', find?_cons_self, find?_cons_self]
      · rw [find?_cons_of_ne hk', find?_cons_of_ne hk', ih]

/-- Whatever is set for a key is seen elsewhere as if the key were missing. -/
theorem find?_put_eq_erase (h : key' ≠ key) :
    find? (put key value members) key' = find? (erase key members) key' := by
  rw [find?_put_of_ne h, find?_erase_of_ne h]

/-! ## Members that are collected -/

theorem forall_mem_put {P : Text × Json → Prop} (h : P (key, value)) (hm : ∀ m ∈ members, P m) :
    ∀ m ∈ put key value members, P m := by
  induction members with
  | nil => simpa [put] using h
  | cons m members ih =>
    rw [List.forall_mem_cons] at hm
    rw [put]
    split_ifs with hk
    · rw [hk]
      exact List.forall_mem_cons.mpr ⟨h, hm.2⟩
    · exact List.forall_mem_cons.mpr ⟨hm.1, ih hm.2⟩

theorem put_of_not_mem (h : key ∉ members.map Prod.fst) :
    put key value members = members ++ [(key, value)] := by
  induction members with
  | nil => rfl
  | cons m members ih =>
    rw [List.map_cons, List.mem_cons, not_or] at h
    rw [put, if_neg (Ne.symm h.1), ih h.2, List.cons_append]

theorem keys_put_of_mem (h : key ∈ members.map Prod.fst) :
    (put key value members).map Prod.fst = members.map Prod.fst := by
  induction members with
  | nil => cases h
  | cons m members ih =>
    rw [put]
    split_ifs with hk
    · rfl
    · rw [List.map_cons, List.mem_cons] at h
      rw [List.map_cons, List.map_cons, ih (h.resolve_left (Ne.symm hk))]

theorem nodup_put (h : (members.map Prod.fst).Nodup) :
    ((put key value members).map Prod.fst).Nodup := by
  by_cases hkey : key ∈ members.map Prod.fst
  · rwa [keys_put_of_mem hkey]
  · rw [put_of_not_mem hkey, List.map_append, List.map_singleton]
    exact h.append (List.nodup_singleton key) (by simpa using hkey)

theorem nodup_collect (members : List (Text × Json)) : ((collect members).map Prod.fst).Nodup :=
  List.foldlRecOn (motive := fun known : List (Text × Json) => (known.map Prod.fst).Nodup) members _
    List.nodup_nil fun _ h _ _ => nodup_put h

theorem forall_mem_collect {P : Text × Json → Prop} (h : ∀ m ∈ members, P m) :
    ∀ m ∈ collect members, P m :=
  List.foldlRecOn (motive := fun known : List (Text × Json) => ∀ m ∈ known, P m) members _ (by simp)
    fun _ hknown m hm => forall_mem_put (h m hm) hknown

theorem foldl_put_of_nodup {known : List (Text × Json)}
    (h : ((known ++ members).map Prod.fst).Nodup) :
    members.foldl (fun known m => put m.1 m.2 known) known = known ++ members := by
  induction members generalizing known with
  | nil => simp
  | cons m members ih =>
    rw [List.append_cons] at h
    have hfirst : m.1 ∉ known.map Prod.fst := by
      rw [List.append_assoc, List.map_append, List.nodup_append] at h
      exact fun hm => h.2.2 _ hm m.1 (by simp) rfl
    rw [List.foldl_cons, put_of_not_mem hfirst, ih h, List.append_assoc]
    rfl

/-- Members with different keys stay as they are. -/
theorem collect_of_nodup (h : (members.map Prod.fst).Nodup) : collect members = members :=
  foldl_put_of_nodup h

/-! ## Members that are set and dropped -/

/-- What members become when a key gets a value: it stays where the key stood, or comes last if the
key is new, and everything else is as it was. -/
inductive Sets (key : Text) (value : Json) : List (Text × Json) → List (Text × Json) → Prop
  | inPlace {front back : List (Text × Json)} {old : Json} (h : key ∉ front.map Prod.fst) :
      Sets key value (front ++ (key, old) :: back) (front ++ (key, value) :: back)
  | atEnd {members : List (Text × Json)} (h : key ∉ members.map Prod.fst) :
      Sets key value members (members ++ [(key, value)])

inductive Drops (key : Text) : List (Text × Json) → List (Text × Json) → Prop
  | present {front back : List (Text × Json)} {old : Json} (hfront : key ∉ front.map Prod.fst)
      (hback : key ∉ back.map Prod.fst) : Drops key (front ++ (key, old) :: back) (front ++ back)
  | absent {members : List (Text × Json)} (h : key ∉ members.map Prod.fst) :
      Drops key members members

/-- The first member with a key, and what stands around it. -/
theorem exists_eq_append_of_mem_keys (h : key ∈ members.map Prod.fst) : ∃ front old back,
    members = front ++ (key, old) :: back ∧ key ∉ front.map Prod.fst := by
  induction members with
  | nil => cases h
  | cons m members ih =>
    obtain ⟨k, v⟩ := m
    by_cases hk : key = k
    · exact ⟨[], v, members, by rw [hk]; rfl, by simp⟩
    · obtain ⟨front, old, back, rfl, hfront⟩ := ih (by simpa [hk] using h)
      exact ⟨(k, v) :: front, old, back, rfl, by simpa [hk] using hfront⟩

theorem put_append_cons {front back : List (Text × Json)} {old : Json}
    (h : key ∉ front.map Prod.fst) :
    put key value (front ++ (key, old) :: back) = front ++ (key, value) :: back := by
  induction front with
  | nil => rw [List.nil_append, put, if_pos rfl, List.nil_append]
  | cons m front ih =>
    rw [List.map_cons, List.mem_cons, not_or] at h
    rw [List.cons_append, put, if_neg (Ne.symm h.1), ih h.2, List.cons_append]

theorem erase_of_not_mem (h : key ∉ members.map Prod.fst) : erase key members = members := by
  rw [erase, List.filter_eq_self]
  intro m hm
  have hne : m.1 ≠ key := fun heq => h (heq ▸ List.mem_map_of_mem hm)
  simpa using hne

theorem sets_put : Sets key value members (put key value members) := by
  by_cases h : key ∈ members.map Prod.fst
  · obtain ⟨front, old, back, rfl, hfront⟩ := exists_eq_append_of_mem_keys h
    rw [put_append_cons hfront]
    exact .inPlace hfront
  · rw [put_of_not_mem h]
    exact .atEnd h

theorem drops_erase (hkeys : (members.map Prod.fst).Nodup) :
    Drops key members (erase key members) := by
  by_cases h : key ∈ members.map Prod.fst
  · obtain ⟨front, old, back, rfl, hfront⟩ := exists_eq_append_of_mem_keys h
    rw [List.map_append, List.map_cons, List.nodup_append, List.nodup_cons] at hkeys
    have hback := hkeys.2.1.1
    have herase : erase key (front ++ (key, old) :: back) = front ++ back := by
      rw [erase, List.filter_append, List.filter_cons_of_neg (by simp)]
      exact congrArg₂ _ (erase_of_not_mem hfront) (erase_of_not_mem hback)
    rw [herase]
    exact .present hfront hback
  · rw [erase_of_not_mem h]
    exact .absent h

theorem find?_eq_none_iff : find? members key = none ↔ key ∉ members.map Prod.fst := by
  rw [find?, List.lookup_eq_none_iff, List.mem_map, not_exists]
  refine forall_congr' fun m => ?_
  rw [not_and, bne_iff_ne]
  exact forall_congr' fun _ => ne_comm

/-- Of two values that are set for a key one after the other the last one counts. -/
theorem put_put {value' : Json} :
    put key value' (put key value members) = put key value' members := by
  induction members with
  | nil => rw [put, put, put, if_pos rfl]
  | cons m members ih =>
    obtain ⟨k, v⟩ := m
    rw [put, put]
    split_ifs with hk
    · rw [put, if_pos hk]
    · rw [put, if_neg hk, ih]

theorem erase_put : erase key (put key value members) = erase key members := by
  induction members with
  | nil => simp [put, erase]
  | cons m members ih =>
    obtain ⟨k, v⟩ := m
    rw [erase] at ih ⊢
    rw [put]
    split_ifs with hk
    · rw [List.filter_cons_of_neg (by simpa using hk), erase,
        List.filter_cons_of_neg (by simpa using hk)]
    · rw [List.filter_cons_of_pos (by simpa using hk), erase,
        List.filter_cons_of_pos (by simpa using hk), ih, erase]

theorem text?_eq_some {t : Text} : value.text? = some t ↔ value = .str t := by
  cases value <;> simp [text?]

end ZigAdvisor.Json
