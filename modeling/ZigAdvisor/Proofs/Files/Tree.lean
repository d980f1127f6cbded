import Mathlib.Tactic
import ZigAdvisor.Files.Tree

/-!
# Files that are written anew

Where a path leads to a file, all that stands in front of it is a directory. So when the file is
written anew every path leads on as before, and only what leads to the file finds another content.
-/

namespace ZigAdvisor.FileTree

variable {tree : FileTree} {path place : Path} {names : List Text} {name : Text} {node : Node}
  {old content : Bytes}

/-! ## One place -/

theorem lookup_map_replace {entries : List (Path × Node)} (h : (entries.lookup path).isSome) :
    (entries.map fun e => if e.1 = path then (path, node) else e).lookup path = some node := by
  induction entries with
  | nil => cases h
  | cons e entries ih =>
    obtain ⟨q, n⟩ := e
    by_cases hq : q = path
    · simp [hq]
    · have hne : (path == q) = false := beq_false_of_ne (Ne.symm hq)
      rw [List.lookup_cons, hne] at h
      simp [hq, List.lookup_cons, hne, ih h]

theorem lookup_map_replace_of_ne {entries : List (Path × Node)} (h : place ≠ path) :
    (entries.map fun e => if e.1 = path then (path, node) else e).lookup place =
      entries.lookup place := by
  induction entries with
  | nil => rfl
  | cons e entries ih =>
    obtain ⟨q, n⟩ := e
    by_cases hq : q = path
    · have hne : (place == path) = false := beq_false_of_ne h
      simp [hq, List.lookup_cons, hne, ih]
    · simp only [List.map_cons, hq, if_false, List.lookup_cons, ih]

theorem ne_nil_of_node? (h : tree.node? path = some (.file old)) : path ≠ [] := by
  rintro rfl
  cases h

theorem node?_of_ne_nil (h : path ≠ []) : tree.node? path = tree.entries.lookup path := by
  rw [node?, if_neg (by simpa using h)]

section Rewritten

variable (h : tree.node? path = some (.file old))

include h

theorem entries_writeAt : (tree.writeAt path content).entries =
    tree.entries.map fun e => if e.1 = path then (path, .file content) else e := by
  rw [writeAt, if_pos (by rw [h]; rfl)]

theorem node?_writeAt : (tree.writeAt path content).node? place =
    if place = path then some (.file content) else tree.node? place := by
  have hpath := ne_nil_of_node? h
  by_cases hnil : place = []
  · rw [hnil, if_neg (Ne.symm hpath)]
    rfl
  · rw [node?_of_ne_nil hnil, entries_writeAt h]
    split_ifs with hplace
    · rw [hplace]
      rw [node?_of_ne_nil hpath] at h
      exact lookup_map_replace (by rw [h]; rfl)
    · rw [lookup_map_replace_of_ne hplace, node?_of_ne_nil hnil]

theorem writeAt_writeAt (content' : Bytes) :
    (tree.writeAt path content).writeAt path content' = tree.writeAt path content' := by
  have hwritten : (tree.writeAt path content).node? path = some (.file content) := by
    rw [node?_writeAt h, if_pos rfl]
  have hentries : ((tree.writeAt path content).writeAt path content').entries =
      (tree.writeAt path content').entries := by
    rw [entries_writeAt hwritten, entries_writeAt h, entries_writeAt h, List.map_map]
    refine List.map_congr_left fun e _ => ?_
    by_cases he : e.1 = path <;> simp [he]
  exact congrArg FileTree.mk hentries

/-- Every path leads on as before; what leads to the file finds what was written. -/
theorem follow_writeAt (place : Path) (names : List Text) :
    (tree.writeAt path content).follow place names = (tree.follow place names).map fun node =>
      if destination place names = path then .file content else node := by
  induction names generalizing place with
  | nil =>
    rw [follow, follow, destination, node?_writeAt h]
    by_cases hplace : place = path
    · simp only [hplace, if_true, h]
      rfl
    · simp only [hplace, if_false]
      cases tree.node? place <;> rfl
  | cons name names ih =>
    rw [follow, follow, node?_writeAt h, destination]
    by_cases hplace : place = path
    · -- A file stands here, before and after, so no path goes on.
      simp only [hplace, if_true, h]
      rfl
    · simp only [hplace, if_false]
      cases tree.node? place with
      | none => rfl
      | some node =>
        cases node with
        | file _ => rfl
        | directory =>
          by_cases hsize : 255 < (Utf8.encode name).length
          · simp only [hsize, if_true]
            rfl
          · simp only [hsize, if_false]
            by_cases hdots : name = ".."
            · simp only [hdots, if_true]
              exact ih place.dropLast
            · simp only [hdots, if_false]
              exact ih (place ++ [name])

theorem has_writeAt (path' : Path) : (tree.writeAt path content).has path' = tree.has path' := by
  rw [has, has, follow_writeAt h]
  cases tree.follow [] path' <;> rfl

end Rewritten

/-! ## Paths -/

theorem node?_destination (h : tree.follow place names = .ok node) :
    tree.node? (destination place names) = some node := by
  induction names generalizing place with
  | nil =>
    rw [follow] at h
    cases hnode : tree.node? place with
    | none => simp [hnode] at h
    | some n =>
      rw [destination, hnode]
      simpa [hnode] using h
  | cons name names ih =>
    rw [follow] at h
    cases hnode : tree.node? place with
    | none => simp [hnode] at h
    | some n =>
      cases n with
      | file _ => simp [hnode] at h
      | directory =>
        simp only [hnode] at h
        rw [destination]
        split_ifs at h ⊢ with hsize hdots
        · exact ih h
        · exact ih h

/-- What has something below it is a directory. -/
theorem follow_of_append (h : tree.follow place (names ++ [name]) = .ok node) :
    tree.follow place names = .ok .directory := by
  induction names generalizing place with
  | nil =>
    rw [List.nil_append, follow] at h
    rw [follow]
    cases hnode : tree.node? place with
    | none => simp [hnode] at h
    | some n =>
      cases n with
      | file _ => simp [hnode] at h
      | directory => rfl
  | cons first names ih =>
    rw [List.cons_append, follow] at h
    rw [follow]
    cases hnode : tree.node? place with
    | none => simp [hnode] at h
    | some n =>
      cases n with
      | file _ => simp [hnode] at h
      | directory =>
        simp only [hnode] at h ⊢
        split_ifs at h ⊢
        · exact ih h
        · exact ih h

theorem follow_of_readFrom (h : tree.readFrom place names = .ok old) :
    tree.follow place names = .ok (.file old) := by
  rw [readFrom] at h
  split at h
  · next hfollow => rw [hfollow, Except.ok.inj h]
  · cases h
  · cases h

section Read

variable (h : tree.readFrom [] path = .ok old)

include h

theorem node?_of_readFrom : tree.node? (destination [] path) = some (.file old) :=
  node?_destination (follow_of_readFrom h)

theorem has_of_readFrom : tree.has path = true := by
  rw [has, follow_of_readFrom h]

theorem makeDirectory_of_readFrom : tree.makeDirectory path.dropLast = .ok tree := by
  have hfollow := follow_of_readFrom h
  have hpath : path ≠ [] := by
    rintro rfl
    cases hfollow
  rw [← List.dropLast_append_getLast hpath] at hfollow
  rw [makeDirectory, follow_of_append hfollow]

theorem readFrom_write (content : Bytes) :
    (tree.write path content).readFrom [] path = .ok content := by
  rw [readFrom, write, follow_writeAt (node?_of_readFrom h), follow_of_readFrom h, Except.map]
  simp

theorem has_write (content : Bytes) (path' : Path) :
    (tree.write path content).has path' = tree.has path' :=
  has_writeAt (node?_of_readFrom h) path'

theorem write_write (content content' : Bytes) :
    (tree.write path content).write path content' = tree.write path content' :=
  writeAt_writeAt (node?_of_readFrom h) content'

end Read

end ZigAdvisor.FileTree
