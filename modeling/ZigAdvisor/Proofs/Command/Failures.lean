import ZigAdvisor.Proofs.Command.Installing

/-!
# Commands that fail

A command fails cleanly if it ends with a code, keeps every file unless it ends well, and says what
is wrong where it does not. Commands on configurations do so where the file is no JSON, or is an
object whose servers have a form they can change and the writer comes to the end of what becomes of
it; commands on sources where the file is a text. Only a writer that gives up leaves a file half
changed, and one that goes as deep as the reader does not give up.
-/

namespace ZigAdvisor.Command

open Installation (Holds HasServers NotJson Separable entry key serversKey withServers)
open Json (Within find? put erase)

variable {m : Machine} {o : Outcome} {everywhere insiders : Bool} {path : Path} {location : Text}
  {name told : Text} {file configuration source : Bytes} {j : Json} {failure : Failure}

/-- Whether a command on a machine ends with code 0 or 1, keeps every file unless the code is 0, and
prints an error if it is 1. -/
structure Outcome.IsClean (o : Outcome) (m : Machine) : Prop where
  ends : o.ending = .done 0 ∨ o.ending = .done 1
  keeps : o.ending ≠ .done 0 → o.machine = m
  tells : o.ending = .done 1 → ∃ text, o.errors = "Error: " ++ text ++ "\n"

/-- Whether a command stopped while it wrote a configuration that is nested too deeply for the
writer: what was in the file is gone, and the beginning of what should be there has taken its
place. -/
structure Outcome.CutsShort (o : Outcome) (m : Machine) (path : Path) : Prop where
  ends : o.ending = .failed (.configuration .deepObject)
  leaves : ∃ changed written, ¬ Within m.nesting.configurations changed ∧
    written <+: changed.spread ∧
    o.machine = { m with files := m.files.write path (Utf8.encode written) }

namespace Outcome

theorem isClean_of_done (h : o.ending = .done 0) : o.IsClean m where
  ends := Or.inl h
  keeps hne := absurd h hne
  tells hone := by
    rw [h] at hone
    cases hone

theorem not_isClean_of_failed (h : o.ending = .failed failure) : ¬ o.IsClean m := by
  rintro ⟨hends | hends, -, -⟩ <;> rw [h] at hends <;> cases hends

end Outcome

namespace Machine

/-- A code without an error is not clean. -/
theorem not_isClean_of_silent : ¬ (m.unchanged (.done 1) [] []).IsClean m := by
  rintro ⟨-, -, htells⟩
  obtain ⟨text, h⟩ := htells rfl
  cases h

theorem isClean_notJson : (m.notJson path).IsClean m where
  ends := Or.inr rfl
  keeps _ := rfl
  tells _ := by
    have hstart : Text.ofString "Error: Invalid JSON in " =
      Text.ofString "Error: " ++ Text.ofString "Invalid JSON in " := rfl
    exact ⟨.concat ["Invalid JSON in ", path.text], by simp [notJson, unchanged, hstart]⟩

/-! ## Configurations -/

theorem readConfiguration_eq_value (h : m.files.readFrom [] path = .ok file) :
    m.readConfiguration path = .value j ↔ Holds m.nesting.files file j := by
  refine ⟨fun hread => ?_, readConfiguration_of_holds h⟩
  simp only [readConfiguration, h] at hread
  split at hread
  · cases hread
  · next text hdecode =>
    split at hread
    · next j' hparse =>
      cases hread
      exact ⟨text, hdecode, hparse⟩
    · cases hread
    · cases hread

theorem readConfiguration_eq_notJson (h : m.files.readFrom [] path = .ok file) :
    m.readConfiguration path = .notJson ↔ NotJson m.nesting.files file := by
  constructor
  · intro hread
    simp only [readConfiguration, h] at hread
    split at hread
    · cases hread
    · next text hdecode =>
      split at hread
      · cases hread
      · next problem rest hparse => exact ⟨text, problem, rest, hdecode, hparse⟩
      · cases hread
  · rintro ⟨text, problem, rest, hdecode, hparse⟩
    simp only [readConfiguration, h, hdecode, hparse]

/-! ## Configurations that are changed -/

theorem isClean_store_iff :
    (m.store path j told).IsClean m ↔ Within m.nesting.configurations j := by
  rw [← Json.complete_writeWithin_iff, store]
  split_ifs with hcomplete
  · exact iff_of_true (Outcome.isClean_of_done rfl) hcomplete
  · exact iff_of_false (Outcome.not_isClean_of_failed rfl) hcomplete

/-- A writer that gives up leaves what it wrote up to there. -/
theorem cutsShort_store (hfile : m.files.readFrom [] path = .ok file)
    (h : (m.store path j told).ending ≠ .done 0) : (m.store path j told).CutsShort m path := by
  rw [store] at h ⊢
  split_ifs at h ⊢ with hcomplete
  · exact absurd rfl h
  · refine ⟨rfl, j, _, mt Json.complete_writeWithin_iff.mpr hcomplete,
      (Json.begins_writeWithin _ m.nesting.configurations j).isStart, ?_⟩
    rw [FileTree.write_write hfile]
    rfl

theorem isClean_register_iff : (m.register path location j).IsClean m ↔
    ∃ changed, Installation.register (entry m.chosenInterpreter) j = .ok changed ∧
      Within m.nesting.configurations changed := by
  rw [register]
  cases hchanged : Installation.register (entry m.chosenInterpreter) j with
  | error fault => simpa using Outcome.not_isClean_of_failed rfl
  | ok changed => simpa using isClean_store_iff

theorem isClean_unregister_iff : (m.unregister path location j).IsClean m ↔
    ∃ left, Installation.unregister j = .ok left ∧
      ∀ changed ∈ left, Within m.nesting.configurations changed := by
  rw [unregister]
  cases hleft : Installation.unregister j with
  | error fault => simpa using Outcome.not_isClean_of_failed rfl
  | ok left =>
    cases left with
    | none => simpa using Outcome.isClean_of_done rfl
    | some changed => simpa using isClean_store_iff

/-- Whether a command on a machine keeps the files or is cut short, unless it ends well. -/
def Keeps (m : Machine) (path : Path) (o : Outcome) : Prop :=
  o.ending ≠ .done 0 → o.machine = m ∨ o.CutsShort m path

theorem keeps_register (hfile : m.files.readFrom [] path = .ok file) :
    m.Keeps path (m.register path location j) := by
  intro h
  rw [register] at h ⊢
  split at h
  · exact Or.inl rfl
  · exact Or.inr (cutsShort_store hfile h)

theorem keeps_unregister (hfile : m.files.readFrom [] path = .ok file) :
    m.Keeps path (m.unregister path location j) := by
  intro h
  rw [unregister] at h ⊢
  split at h
  · exact Or.inl rfl
  · exact Or.inl rfl
  · exact Or.inr (cutsShort_store hfile h)

section Loaded

variable {change : Json → Outcome}

/-- A configuration that is read is changed, and otherwise nothing is done. -/
theorem withLoaded_cases (h : m.files.readFrom [] path = .ok file) :
    (m.withLoaded path change).machine = m ∨
      ∃ j, Holds m.nesting.files file j ∧ m.withLoaded path change = change j := by
  cases hread : m.readConfiguration path with
  | unreadable failure =>
    left
    rw [withLoaded, hread]
    rfl
  | notJson =>
    left
    rw [withLoaded, hread]
    rfl
  | value j =>
    have hholds := (readConfiguration_eq_value h).mp hread
    cases j with
    | null =>
      left
      rw [withLoaded, hread]
      rfl
    | _ =>
      right
      refine ⟨_, hholds, ?_⟩
      rw [withLoaded, hread]

theorem isClean_withLoaded_iff (h : m.files.readFrom [] path = .ok file) :
    (m.withLoaded path change).IsClean m ↔ NotJson m.nesting.files file ∨
      ∃ j, Holds m.nesting.files file j ∧ j ≠ .null ∧ (change j).IsClean m := by
  simp only [← readConfiguration_eq_notJson h, ← readConfiguration_eq_value h, withLoaded]
  cases m.readConfiguration path with
  | unreadable failure => simpa using Outcome.not_isClean_of_failed rfl
  | notJson => simpa using isClean_notJson
  | value j =>
    cases j with
    | null => simpa using not_isClean_of_silent
    | _ => simp

end Loaded

section Configuration

variable (h : m.HasFile everywhere insiders configuration)

include h

theorem keeps_install : m.Keeps (Installation.path m.home m.directory everywhere insiders)
    (m.install everywhere insiders) := by
  rw [h.install_eq]
  rcases withLoaded_cases h with hsame | ⟨j, -, hchange⟩
  · exact fun _ => Or.inl hsame
  · rw [hchange]
    exact keeps_register h

theorem keeps_uninstall : m.Keeps (Installation.path m.home m.directory everywhere insiders)
    (m.uninstall everywhere insiders) := by
  rw [h.uninstall_eq]
  rcases withLoaded_cases h with hsame | ⟨j, -, hchange⟩
  · exact fun _ => Or.inl hsame
  · rw [hchange]
    exact keeps_unregister h

theorem isClean_install_iff : (m.install everywhere insiders).IsClean m ↔
    NotJson m.nesting.files configuration ∨
      ∃ members servers, Holds m.nesting.files configuration (.obj members) ∧
        HasServers members servers ∧ Within m.nesting.configurations
          (.obj (withServers members (put key (entry m.chosenInterpreter) servers))) := by
  rw [h.install_eq, isClean_withLoaded_iff h]
  simp only [isClean_register_iff, Installation.register_eq_ok_iff]
  refine or_congr_right ⟨?_, ?_⟩
  · rintro ⟨_, hholds, -, _, ⟨members, servers, rfl, hservers, rfl⟩, hwithin⟩
    exact ⟨members, servers, hholds, hservers, hwithin⟩
  · rintro ⟨members, servers, hholds, hservers, hwithin⟩
    exact ⟨_, hholds, by simp, _, ⟨members, servers, rfl, hservers, rfl⟩, hwithin⟩

theorem isClean_uninstall_iff : (m.uninstall everywhere insiders).IsClean m ↔
    NotJson m.nesting.files configuration ∨
      ∃ members, Holds m.nesting.files configuration (.obj members) ∧
        (∀ value, find? members serversKey = some value → Separable value) ∧
        ∀ servers, find? members serversKey = some (.obj servers) →
          key ∈ servers.map Prod.fst →
          Within m.nesting.configurations (.obj (withServers members (erase key servers))) := by
  rw [h.uninstall_eq, isClean_withLoaded_iff h]
  simp only [isClean_unregister_iff]
  refine or_congr_right ⟨?_, ?_⟩
  · rintro ⟨j, hholds, -, left, hleft, hwithin⟩
    obtain ⟨members, rfl, hservers⟩ := Installation.exists_unregister_iff.mp ⟨left, hleft⟩
    refine ⟨members, hholds, hservers, fun servers hfind hkey => hwithin _ ?_⟩
    rw [Installation.unregister_eq_some_iff.mpr ⟨servers, hfind, hkey, rfl⟩] at hleft
    exact (Except.ok.inj hleft).symm
  · rintro ⟨members, hholds, hservers, hwithin⟩
    obtain ⟨left, hleft⟩ := Installation.exists_unregister_iff.mpr ⟨members, rfl, hservers⟩
    refine ⟨_, hholds, by simp, left, hleft, ?_⟩
    rintro changed rfl
    obtain ⟨servers, hfind, hkey, rfl⟩ := Installation.unregister_eq_some_iff.mp hleft
    exact hwithin servers hfind hkey

/-! ## Writers that go as deep as the reader -/

variable (hwriter : m.nesting.files ≤ m.nesting.configurations)

include hwriter

theorem isClean_install_iff_of_le : (m.install everywhere insiders).IsClean m ↔
    NotJson m.nesting.files configuration ∨
      ∃ members servers, Holds m.nesting.files configuration (.obj members) ∧
        HasServers members servers := by
  rw [isClean_install_iff h]
  refine or_congr_right ⟨?_, ?_⟩
  · rintro ⟨members, servers, hholds, hservers, -⟩
    exact ⟨members, servers, hholds, hservers⟩
  · rintro ⟨members, servers, hholds, hservers⟩
    have hwithin := within_register hservers hholds.within m.chosenInterpreter
    exact ⟨members, servers, hholds, hservers, hwithin.mono hwriter⟩

theorem isClean_uninstall_iff_of_le : (m.uninstall everywhere insiders).IsClean m ↔
    NotJson m.nesting.files configuration ∨
      ∃ members, Holds m.nesting.files configuration (.obj members) ∧
        ∀ value, find? members serversKey = some value → Separable value := by
  rw [isClean_uninstall_iff h]
  refine or_congr_right ⟨?_, ?_⟩
  · rintro ⟨members, hholds, hservers, -⟩
    exact ⟨members, hholds, hservers⟩
  · rintro ⟨members, hholds, hservers⟩
    refine ⟨members, hholds, hservers, fun servers hfind _ => ?_⟩
    exact (Installation.within_erase hfind hholds.within).mono hwriter

/-- What becomes of a configuration that was read is never cut short. -/
theorem machine_install_of_le (hending : (m.install everywhere insiders).ending ≠ .done 0) :
    (m.install everywhere insiders).machine = m := by
  rw [h.install_eq] at hending ⊢
  rcases withLoaded_cases h with hsame | ⟨j, hholds, hchange⟩
  · exact hsame
  · rw [hchange, register] at hending ⊢
    split at hending
    · rfl
    · next changed hchanged =>
      obtain ⟨members, servers, rfl, hservers, rfl⟩ :=
        Installation.register_eq_ok_iff.mp hchanged
      have hwithin := within_register hservers hholds.within m.chosenInterpreter
      rw [store_of_within h (hwithin.mono hwriter)] at hending
      exact absurd rfl hending

theorem machine_uninstall_of_le (hending : (m.uninstall everywhere insiders).ending ≠ .done 0) :
    (m.uninstall everywhere insiders).machine = m := by
  rw [h.uninstall_eq] at hending ⊢
  rcases withLoaded_cases h with hsame | ⟨j, hholds, hchange⟩
  · exact hsame
  · rw [hchange, unregister] at hending ⊢
    split at hending
    · rfl
    · rfl
    · next changed hleft =>
      obtain ⟨members, rfl, -⟩ := Installation.exists_unregister_iff.mp ⟨_, hleft⟩
      have hwithin := within_unregister hholds.within hleft
      rw [store_of_within h (hwithin.mono hwriter)] at hending
      exact absurd rfl hending

end Configuration

/-! ## Sources -/

structure HasSource (m : Machine) (name : Text) (source : Bytes) : Prop where
  hasBytes : name.any GivenPath.lacksBytes = false
  noNull : name.contains [.ofNat 0] = false
  read : m.files.read m.directory (GivenPath.ofText name) = .ok source

theorem isClean_withSource_iff {review : Text → Traced Text} (h : m.HasSource name source) :
    (m.withSource name review).IsClean m ↔ ∃ text, Utf8.decode source = .ok text := by
  simp only [withSource, h.hasBytes, h.noNull, h.read]
  cases Utf8.decode source with
  | error e => simpa using Outcome.not_isClean_of_failed rfl
  | ok text => simpa using Outcome.isClean_of_done rfl

/-- A source that cannot be read is told. -/
theorem tells_withSource {review : Text → Traced Text}
    (h : (m.withSource name review).ending = .done 1) :
    ∃ text, (m.withSource name review).errors = "Error: " ++ text ++ "\n" := by
  have hstart : Text.ofString "Error: cannot read " =
    Text.ofString "Error: " ++ Text.ofString "cannot read " := rfl
  rw [withSource] at h ⊢
  split_ifs at h ⊢
  · cases h
  · cases h
  · split at h
    · next fault _ =>
      exact ⟨.concat ["cannot read ", name, ": ", fault.message (GivenPath.ofText name).text],
        by simp [unchanged, hstart]⟩
    · split at h <;> cases h

/-! ## All commands on files -/

/-- Which files the commands fail cleanly on, and what they leave of them. -/
structure CleanExactly (m : Machine) (everywhere insiders : Bool) (configuration : Bytes)
    (name prompt : Text) (source : Bytes) : Prop where
  install_iff : (m.install everywhere insiders).IsClean m ↔
    NotJson m.nesting.files configuration ∨
      ∃ members servers, Holds m.nesting.files configuration (.obj members) ∧
        HasServers members servers ∧ Within m.nesting.configurations
          (.obj (withServers members (put key (entry m.chosenInterpreter) servers)))
  uninstall_iff : (m.uninstall everywhere insiders).IsClean m ↔
    NotJson m.nesting.files configuration ∨
      ∃ members, Holds m.nesting.files configuration (.obj members) ∧
        (∀ value, find? members serversKey = some value → Separable value) ∧
        ∀ servers, find? members serversKey = some (.obj servers) →
          key ∈ servers.map Prod.fst →
          Within m.nesting.configurations (.obj (withServers members (erase key servers)))
  check_iff : (m.check name prompt).IsClean m ↔ ∃ text, Utf8.decode source = .ok text
  checkBuild_iff : (m.checkBuild name).IsClean m ↔ ∃ text, Utf8.decode source = .ok text
  keeps : ∀ o ∈ [m.install everywhere insiders, m.uninstall everywhere insiders],
    m.Keeps (Installation.path m.home m.directory everywhere insiders) o
  tells : ∀ name, ∀ o ∈ [m.check name prompt, m.checkBuild name],
    o.ending = .done 1 → ∃ text, o.errors = "Error: " ++ text ++ "\n"
  /-- A writer that goes as deep as the reader comes to the end of all that it is given. -/
  writes : m.nesting.files ≤ m.nesting.configurations →
    ((m.install everywhere insiders).IsClean m ↔ NotJson m.nesting.files configuration ∨
      ∃ members servers, Holds m.nesting.files configuration (.obj members) ∧
        HasServers members servers) ∧
    ((m.uninstall everywhere insiders).IsClean m ↔ NotJson m.nesting.files configuration ∨
      ∃ members, Holds m.nesting.files configuration (.obj members) ∧
        ∀ value, find? members serversKey = some value → Separable value) ∧
    ∀ o ∈ [m.install everywhere insiders, m.uninstall everywhere insiders],
      o.ending ≠ .done 0 → o.machine = m

end Machine

end ZigAdvisor.Command
