import ZigAdvisor.Json.Reader
import ZigAdvisor.Proofs.Json.Members
import ZigAdvisor.Proofs.Text.Surrogates
import ZigAdvisor.Proofs.Text.Word

/-!
# Values within the limits of the reader

A value can be read back from how it is written if its strings hold no pair of surrogates, its whole
numbers are not too long, it is not nested too deeply and no object has a key twice. Which of its
other numbers survive is a question of its own.
-/

namespace ZigAdvisor.Json

variable {depth : ℕ} {j : Json} {P Q : Double → Prop}

def AnyDouble (_ : Double) : Prop := True

def NoDouble (_ : Double) : Prop := False

/-- A value within the limits of the reader, nested at most `depth` deep, whose numbers that are not
whole have a property. -/
inductive Readable (P : Double → Prop) : ℕ → Json → Prop
  | null {depth : ℕ} : Readable P depth null
  | bool {depth : ℕ} (b : Bool) : Readable P depth (bool b)
  | int {depth : ℕ} {i : ℤ} (h : (Text.ofNat i.natAbs).length ≤ Text.maxDigits) :
      Readable P depth (int i)
  | float {depth : ℕ} {d : Double} (h : P d) : Readable P depth (float d)
  | str {depth : ℕ} {t : Text} (h : t.Unpaired) : Readable P depth (str t)
  | arr {depth : ℕ} {items : List Json} (h : ∀ item ∈ items, Readable P depth item) :
      Readable P (depth + 1) (arr items)
  | obj {depth : ℕ} {members : List (Text × Json)} (hkeys : (members.map Prod.fst).Nodup)
      (htexts : ∀ m ∈ members, m.1.Unpaired) (h : ∀ m ∈ members, Readable P depth m.2) :
      Readable P (depth + 1) (obj members)

inductive EveryDouble (P : Double → Prop) : Json → Prop
  | null : EveryDouble P null
  | bool (b : Bool) : EveryDouble P (bool b)
  | int (i : ℤ) : EveryDouble P (int i)
  | float {d : Double} (h : P d) : EveryDouble P (float d)
  | str (t : Text) : EveryDouble P (str t)
  | arr {items : List Json} (h : ∀ item ∈ items, EveryDouble P item) : EveryDouble P (arr items)
  | obj {members : List (Text × Json)} (h : ∀ m ∈ members, EveryDouble P m.2) :
      EveryDouble P (obj members)

theorem Readable.succ (h : Readable P depth j) : Readable P (depth + 1) j := by
  induction h with
  | null => exact .null
  | bool b => exact .bool b
  | int h => exact .int h
  | float h => exact .float h
  | str h => exact .str h
  | arr _ ih => exact .arr ih
  | obj hkeys htexts _ ih => exact .obj hkeys htexts ih

theorem Readable.mono {depth' : ℕ} (h : Readable P depth j) (hle : depth ≤ depth') :
    Readable P depth' j := by
  induction hle with
  | refl => exact h
  | step _ ih => exact ih.succ

/-! ## Parts of a value -/

theorem Readable.unpaired {t : Text} (h : Readable P depth (Json.str t)) : t.Unpaired := by
  cases h with
  | str ht => exact ht

theorem Readable.of_mem_items {items : List Json} (h : Readable P depth (Json.arr items))
    (hj : j ∈ items) : Readable P depth j := by
  cases h with
  | arr hitems => exact (hitems j hj).succ

/-- The values of an object are nested less deep. -/
theorem Readable.of_find?_succ {members : List (Text × Json)} {key : Text}
    (h : Readable P (depth + 1) (Json.obj members)) (hj : find? members key = some j) :
    Readable P depth j := by
  cases h with
  | obj _ _ hmembers => exact hmembers _ (mem_of_find? hj)

theorem Readable.of_find? {members : List (Text × Json)} {key : Text}
    (h : Readable P depth (Json.obj members)) (hj : find? members key = some j) :
    Readable P depth j := by
  cases h with
  | obj _ _ hmembers => exact (hmembers _ (mem_of_find? hj)).succ

theorem Readable.of_member? {value : Json} {key : Text} (h : Readable P depth value)
    (hj : value.member? key = some j) : Readable P depth j := by
  cases value with
  | obj members => exact h.of_find? hj
  | _ => cases hj

theorem Readable.put {members : List (Text × Json)} {key : Text} {value : Json}
    (h : Readable P (depth + 1) (Json.obj members)) (hkey : key.Unpaired)
    (hvalue : Readable P depth value) :
    Readable P (depth + 1) (Json.obj (Json.put key value members)) := by
  cases h with
  | obj hkeys htexts hmembers =>
    exact .obj (nodup_put hkeys) (forall_mem_put hkey htexts) (forall_mem_put hvalue hmembers)

theorem Readable.erase {members : List (Text × Json)} (h : Readable P depth (Json.obj members))
    (key : Text) : Readable P depth (Json.obj (Json.erase key members)) := by
  cases h with
  | obj hkeys htexts hmembers =>
    have hsublist : (Json.erase key members).Sublist members := List.filter_sublist
    exact .obj (hkeys.sublist (hsublist.map Prod.fst)) (fun m hm => htexts m (hsublist.subset hm))
      fun m hm => hmembers m (hsublist.subset hm)

/-! ## Values that are known -/

theorem readable_constant (s : String) : Readable P depth (constant s) :=
  .str (Text.unpaired_ofString s)

theorem readable_object (members : List (String × Json)) (hkeys : (members.map Prod.fst).Nodup)
    (h : ∀ m ∈ members, Readable P depth m.2) : Readable P (depth + 1) (object members) := by
  refine .obj ?_ ?_ ?_
  · have hnodup := hkeys.map Text.ofString_injective
    rw [List.map_map] at hnodup ⊢
    exact hnodup
  · rw [List.forall_mem_map]
    exact fun m _ => Text.unpaired_ofString m.1
  · rw [List.forall_mem_map]
    exact h

theorem readable_arr_map {α : Type} {items : List α} {f : α → Json}
    (h : ∀ a ∈ items, Readable P depth (f a)) : Readable P (depth + 1) (arr (items.map f)) := by
  refine .arr ?_
  rw [List.forall_mem_map]
  exact h

/-! ## Numbers in a value -/

theorem Readable.everyDouble (h : Readable P depth j) : EveryDouble P j := by
  induction h with
  | null => exact .null
  | bool b => exact .bool b
  | int h => exact .int _
  | float h => exact .float h
  | str h => exact .str _
  | arr _ ih => exact .arr ih
  | obj _ _ _ ih => exact .obj ih

/-- The numbers of a value decide what else is known of them. -/
theorem Readable.of_everyDouble (h : Readable P depth j) (hj : EveryDouble Q j) :
    Readable Q depth j := by
  induction h with
  | null => exact .null
  | bool b => exact .bool b
  | int h => exact .int h
  | float h =>
    cases hj with
    | float hd => exact .float hd
  | str h => exact .str h
  | arr _ ih =>
    cases hj with
    | arr hitems => exact .arr fun item hitem => ih item hitem (hitems item hitem)
  | obj hkeys htexts _ ih =>
    cases hj with
    | obj hmembers => exact .obj hkeys htexts fun m hm => ih m hm (hmembers m hm)

@[simp] theorem everyDouble_int (i : ℤ) : EveryDouble P (int i) := .int i

@[simp] theorem everyDouble_str (t : Text) : EveryDouble P (str t) := .str t

@[simp] theorem everyDouble_arr {items : List Json} :
    EveryDouble P (arr items) ↔ ∀ item ∈ items, EveryDouble P item := by
  refine ⟨fun h => ?_, .arr⟩
  cases h with
  | arr hitems => exact hitems

@[simp] theorem everyDouble_obj {members : List (Text × Json)} :
    EveryDouble P (obj members) ↔ ∀ m ∈ members, EveryDouble P m.2 := by
  refine ⟨fun h => ?_, .obj⟩
  cases h with
  | obj hmembers => exact hmembers

theorem EveryDouble.imp (hPQ : ∀ d, P d → Q d) (h : EveryDouble P j) : EveryDouble Q j := by
  induction h with
  | null => exact .null
  | bool b => exact .bool b
  | int i => exact .int i
  | float h => exact .float (hPQ _ h)
  | str t => exact .str t
  | arr _ ih => exact .arr ih
  | obj _ ih => exact .obj ih

theorem NoDouble.imp (d : Double) (h : NoDouble d) : P d := h.elim

end ZigAdvisor.Json
