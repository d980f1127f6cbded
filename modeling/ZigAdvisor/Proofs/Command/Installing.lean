import ZigAdvisor.Command.Run
import ZigAdvisor.Proofs.Command.Configurations
import ZigAdvisor.Proofs.Files.Tree

/-!
# Installing and taking out

A configuration that is there is changed in its servers alone, and in these under the key of the
server alone. Installing again writes the same file again, taking the server out writes the
configuration without it, and where it is not entered nothing is written. All of this is about a
writer that goes at least as deep as the reader, so that it comes to the end of whatever was read.
-/

namespace ZigAdvisor.Command

open Installation (Holds HasServers entry key serversKey withServers)
open Json (EveryDouble Readable Survives Within put erase Sets Drops find?)

variable {m : Machine} {everywhere insiders : Bool} {path : Path} {location : Text}
  {file : Bytes} {j : Json} {members servers : List (Text × Json)} {told : Text}

namespace Machine

/-! ## The configuration file -/

def HasFile (m : Machine) (everywhere insiders : Bool) (file : Bytes) : Prop :=
  m.files.readFrom [] (Installation.path m.home m.directory everywhere insiders) = .ok file

def Configured (m : Machine) (everywhere insiders : Bool) (j : Json) : Prop :=
  ∃ file, m.HasFile everywhere insiders file ∧ Holds m.nesting.files file j

def withConfiguration (m : Machine) (path : Path) (configuration : Json) : Machine :=
  { m with files := m.files.write path (Installation.content configuration) }

/-- What was in the file before it was emptied does not matter. -/
theorem store_of_within (hfile : m.files.readFrom [] path = .ok file)
    (h : Within m.nesting.configurations j) :
    m.store path j told = (m.withConfiguration path j).unchanged (.done 0) told [] := by
  simp only [store, Json.writeWithin_of_within h, if_true, FileTree.write_write hfile]
  rfl

theorem readConfiguration_of_holds (hfile : m.files.readFrom [] path = .ok file)
    (h : Holds m.nesting.files file j) : m.readConfiguration path = .value j := by
  obtain ⟨text, hdecode, hparse⟩ := h
  simp only [readConfiguration, hfile, hdecode, hparse]

theorem HasFile.install_eq (h : m.HasFile everywhere insiders file) :
    let path := Installation.path m.home m.directory everywhere insiders
    m.install everywhere insiders =
      m.withLoaded path (m.register path (Installation.location everywhere insiders)) := by
  simp only [install, FileTree.makeDirectory_of_readFrom h, FileTree.has_of_readFrom h, if_true]

theorem HasFile.uninstall_eq (h : m.HasFile everywhere insiders file) :
    let path := Installation.path m.home m.directory everywhere insiders
    m.uninstall everywhere insiders =
      m.withLoaded path (m.unregister path (Installation.location everywhere insiders)) := by
  simp only [uninstall, FileTree.has_of_readFrom h, if_true]

theorem HasFile.withConfiguration (h : m.HasFile everywhere insiders file) (j : Json) :
    (m.withConfiguration (Installation.path m.home m.directory everywhere insiders) j).HasFile
      everywhere insiders (Installation.content j) :=
  FileTree.readFrom_write h _

theorem HasFile.withConfiguration_withConfiguration (h : m.HasFile everywhere insiders file)
    (j j' : Json) :
    let path := Installation.path m.home m.directory everywhere insiders
    (m.withConfiguration path j).withConfiguration path j' = m.withConfiguration path j' :=
  congrArg (fun files => { m with files }) (FileTree.write_write h _ _)

theorem HasFile.chosenInterpreter_withConfiguration (h : m.HasFile everywhere insiders file)
    (j : Json) :
    (m.withConfiguration (Installation.path m.home m.directory everywhere insiders)
      j).chosenInterpreter = m.chosenInterpreter := by
  have hhas := FileTree.has_write h (Installation.content j)
    (ownInterpreter m.directory m.windows)
  rw [chosenInterpreter, chosenInterpreter]
  exact congrArg (fun has => if has = true then _ else _) hhas

/-- What is written within the limits of the reader is what the file stands for. -/
theorem Configured.withConfiguration (h : m.Configured everywhere insiders j)
    {j' : Json} (hj' : Readable Survives m.nesting.files j') :
    (m.withConfiguration (Installation.path m.home m.directory everywhere insiders) j').Configured
      everywhere insiders j' := by
  obtain ⟨file, hfile, -⟩ := h
  exact ⟨_, hfile.withConfiguration j', Installation.holds_content hj'⟩

/-! ## One command -/

theorem withLoaded_of_holds {change : Json → Outcome}
    (hfile : m.files.readFrom [] path = .ok file) (h : Holds m.nesting.files file (.obj members)) :
    m.withLoaded path change = change (.obj members) := by
  simp only [withLoaded, readConfiguration_of_holds hfile h]

theorem within_register (hservers : HasServers members servers)
    (h : Within m.nesting.files (.obj members)) (interpreter : Text) :
    Within m.nesting.files (.obj (withServers members (put key (entry interpreter) servers))) := by
  obtain ⟨room, hroom⟩ := Nat.exists_eq_add_of_le m.nesting.files_room
  rw [hroom, show 16 + room = 12 + room + 4 by omega] at h ⊢
  exact hservers.within_put h interpreter

theorem within_unregister (h : Within m.nesting.files (.obj members))
    (hleft : Installation.unregister (.obj members) = .ok (some j)) :
    Within m.nesting.files j := by
  obtain ⟨servers, hfind, -, rfl⟩ := Installation.unregister_eq_some_iff.mp hleft
  exact Installation.within_erase hfind h

/-- Installing enters the server under its key. -/
theorem install_of_hasServers (h : m.Configured everywhere insiders (.obj members))
    (hservers : HasServers members servers) (hwriter : m.nesting.files ≤ m.nesting.configurations) :
    (m.install everywhere insiders).ending = .done 0 ∧
      (m.install everywhere insiders).machine =
        m.withConfiguration (Installation.path m.home m.directory everywhere insiders)
          (.obj (withServers members (put key (entry m.chosenInterpreter) servers))) := by
  obtain ⟨file, hfile, hholds⟩ := h
  have hwithin := (within_register hservers hholds.within m.chosenInterpreter).mono hwriter
  rw [hfile.install_eq, withLoaded_of_holds hfile hholds, register,
    Installation.register_of_hasServers hservers]
  simp only [store_of_within hfile hwithin]
  exact ⟨rfl, rfl⟩

/-- Where the server is not entered nothing is written. -/
theorem uninstall_of_not_mem (h : m.Configured everywhere insiders (.obj members))
    (hservers : HasServers members servers) (hkey : key ∉ servers.map Prod.fst) :
    (m.uninstall everywhere insiders).ending = .done 0 ∧
      (m.uninstall everywhere insiders).machine = m := by
  obtain ⟨file, hfile, hholds⟩ := h
  have hunregister := Installation.unregister_of_find?_eq_none hservers
    (Json.find?_eq_none_iff.mpr hkey)
  rw [hfile.uninstall_eq, withLoaded_of_holds hfile hholds, unregister, hunregister]
  exact ⟨rfl, rfl⟩

/-- Taking the server out writes what is left without it. -/
theorem uninstall_of_unregister (h : m.Configured everywhere insiders (.obj members))
    (hleft : Installation.unregister (.obj members) = .ok (some j))
    (hwriter : m.nesting.files ≤ m.nesting.configurations) :
    (m.uninstall everywhere insiders).ending = .done 0 ∧
      (m.uninstall everywhere insiders).machine =
        m.withConfiguration (Installation.path m.home m.directory everywhere insiders) j := by
  obtain ⟨file, hfile, hholds⟩ := h
  have hwithin := (within_unregister hholds.within hleft).mono hwriter
  rw [hfile.uninstall_eq, withLoaded_of_holds hfile hholds, unregister, hleft]
  simp only [store_of_within hfile hwithin]
  exact ⟨rfl, rfl⟩

end Machine

/-! ## One after the other -/

/-- Whether a command ends well and leaves a configuration with some servers, which is otherwise
like `members`. -/
structure Outcome.Leaves (o : Outcome) (everywhere insiders : Bool)
    (members servers : List (Text × Json)) : Prop where
  ends : o.ending = .done 0
  configured : ∃ changed, Sets serversKey (.obj servers) members changed ∧
    o.machine.Configured everywhere insiders (.obj changed)

namespace Machine

section Kept

variable (h : m.Configured everywhere insiders (.obj members))
  (hservers : HasServers members servers) (hnumbers : EveryDouble Survives (.obj members))
  {depth : ℕ} (hdepth : m.nesting.files = depth + 4)

include h hnumbers hdepth

theorem readable_servers (hservers : HasServers members servers) :
    Readable Survives (depth + 3) (.obj servers) := by
  obtain ⟨file, -, hholds⟩ := h
  rw [hdepth] at hholds
  exact hservers.readable (hholds.readable.of_everyDouble hnumbers)

/-- Whatever readable servers a configuration gets, the file stands for it. -/
theorem configured_withServers (hreadable : Readable Survives (depth + 3) (.obj servers)) :
    (m.withConfiguration (Installation.path m.home m.directory everywhere insiders)
      (.obj (withServers members servers))).Configured everywhere insiders
        (.obj (withServers members servers)) := by
  obtain ⟨file, -, hholds⟩ := id h
  refine h.withConfiguration ?_
  rw [hdepth] at hholds ⊢
  exact Installation.readable_withServers (hholds.readable.of_everyDouble hnumbers) hreadable

variable (hinterpreter : m.chosenInterpreter.Unpaired)
  (hwriter : m.nesting.files ≤ m.nesting.configurations)

include hservers hinterpreter hwriter

theorem configured_install :
    (m.install everywhere insiders).machine.Configured everywhere insiders
      (.obj (withServers members (put key (entry m.chosenInterpreter) servers))) := by
  have hentry : Readable Survives (depth + 2) (entry m.chosenInterpreter) :=
    (Installation.readable_entry hinterpreter).mono (by omega)
  rw [(install_of_hasServers h hservers hwriter).2]
  exact configured_withServers h hnumbers hdepth
    ((readable_servers h hnumbers hdepth hservers).put (Text.unpaired_ofString _) hentry)

theorem leaves_install :
    (m.install everywhere insiders).Leaves everywhere insiders members
      (put key (entry m.chosenInterpreter) servers) where
  ends := (install_of_hasServers h hservers hwriter).1
  configured :=
    ⟨_, Json.sets_put, configured_install h hservers hnumbers hdepth hinterpreter hwriter⟩

/-- Installing a second time writes the same file again. -/
theorem install_install :
    ((m.install everywhere insiders).machine.install everywhere insiders).ending = .done 0 ∧
      ((m.install everywhere insiders).machine.install everywhere insiders).machine =
        (m.install everywhere insiders).machine := by
  obtain ⟨file, hfile, -⟩ := id h
  have hconfigured := configured_install h hservers hnumbers hdepth hinterpreter hwriter
  rw [(install_of_hasServers h hservers hwriter).2] at hconfigured ⊢
  -- The second command finds what the first one wrote, so it sets a value that is there already.
  have hsecond := install_of_hasServers hconfigured Installation.hasServers_withServers hwriter
  rw [hfile.chosenInterpreter_withConfiguration, Installation.withServers_withServers,
    Json.put_put] at hsecond
  exact hsecond.imp_right fun hsame => hsame.trans (hfile.withConfiguration_withConfiguration _ _)

/-- Taking the server out after it was installed leaves the servers without it. -/
theorem leaves_uninstall_install :
    ((m.install everywhere insiders).machine.uninstall everywhere insiders).Leaves
      everywhere insiders members (erase key servers) := by
  obtain ⟨file, hfile, -⟩ := id h
  have hconfigured := configured_install h hservers hnumbers hdepth hinterpreter hwriter
  rw [(install_of_hasServers h hservers hwriter).2] at hconfigured ⊢
  have hthird :=
    uninstall_of_unregister hconfigured Installation.unregister_registered hwriter
  have hmachine := hthird.2.trans (hfile.withConfiguration_withConfiguration _ _)
  refine ⟨hthird.1, _, Json.sets_put, ?_⟩
  rw [hmachine]
  exact configured_withServers h hnumbers hdepth
    ((readable_servers h hnumbers hdepth hservers).erase key)

end Kept

/-- A configuration is kept but for the entry of the server: installing sets it, installing again
leaves every file as it is, taking the server out then drops it, and where it is not entered
nothing is written. The writer is one that goes at least as deep as the reader; where it did not,
what it gives up on would be lost. No path of a file system holds a pair of surrogates, so the one
of the interpreter does not. -/
theorem installing_keeps_configuration
    (h : m.Configured everywhere insiders (.obj members)) (hservers : HasServers members servers)
    (hnumbers : EveryDouble Survives (.obj members)) (hinterpreter : m.chosenInterpreter.Unpaired)
    (hwriter : m.nesting.files ≤ m.nesting.configurations) :
    let first := m.install everywhere insiders
    let second := first.machine.install everywhere insiders
    let third := second.machine.uninstall everywhere insiders
    let unentered := m.uninstall everywhere insiders
    ∃ entered left, Sets key (entry m.chosenInterpreter) servers entered ∧
      Drops key servers left ∧
      first.Leaves everywhere insiders members entered ∧
      second.ending = .done 0 ∧ second.machine = first.machine ∧
      third.Leaves everywhere insiders members left ∧
      (key ∉ servers.map Prod.fst → unentered.ending = .done 0 ∧ unentered.machine = m) := by
  intro first second third unentered
  obtain ⟨depth, hdepth⟩ : ∃ depth, m.nesting.files = depth + 4 :=
    ⟨m.nesting.files - 4, by have := m.nesting.files_room; omega⟩
  obtain ⟨hends, hsame⟩ : second.ending = .done 0 ∧ second.machine = first.machine :=
    install_install h hservers hnumbers hdepth hinterpreter hwriter
  have hkeys : (servers.map Prod.fst).Nodup := by
    cases readable_servers h hnumbers hdepth hservers with
    | obj hkeys _ _ => exact hkeys
  have hthird : third.Leaves everywhere insiders members (erase key servers) := by
    have hleaves := leaves_uninstall_install h hservers hnumbers hdepth hinterpreter hwriter
    rwa [← hsame] at hleaves
  exact ⟨_, _, Json.sets_put, Json.drops_erase hkeys,
    leaves_install h hservers hnumbers hdepth hinterpreter hwriter, hends, hsame, hthird,
    uninstall_of_not_mem h hservers⟩

def ofWorkspace (file : Bytes) : Machine where
  files := ⟨[
    ([""], .directory), (["", "work"], .directory), (["", "work", ".vscode"], .directory),
    (["", "work", ".vscode", "mcp.json"], .file file)]⟩
  directory := ["", "work"]
  home := ["", "home"]
  interpreter := "/usr/bin/python3"
  windows := false
  threshold := 20

theorem installing_keeps_configuration_workspace :
    let other : Json := .obj [("command", .str "other"), ("timeout", .int 30)]
    let members : List (Text × Json) := [("servers", .obj [("other", other)]), ("inputs", .arr [])]
    let m := ofWorkspace (Utf8.encode (.concat [
      "\x7b\"servers\": \x7b\"other\": \x7b\"command\": \"other\", \"timeout\": 30\x7d\x7d, ",
      "\"inputs\": []\x7d"]))
    let first := m.install false false
    let second := first.machine.install false false
    let third := second.machine.uninstall false false
    (m.Configured false false (.obj members) ∧ HasServers members [("other", other)] ∧
      EveryDouble Survives (.obj members) ∧ m.chosenInterpreter.Unpaired ∧
      m.nesting.files ≤ m.nesting.configurations) ∧
    ∃ entered left, Sets key (entry m.chosenInterpreter) [("other", other)] entered ∧
      Drops key [("other", other)] left ∧
      first.Leaves false false members entered ∧
      second.machine = first.machine ∧
      third.Leaves false false members left := by
  intro other members m first second third
  have h : m.Configured false false (.obj members) := ⟨_, rfl, _, rfl, rfl⟩
  have hservers : HasServers members [("other", other)] := Or.inl rfl
  have hnumbers : EveryDouble Survives (.obj members) := by simp [members, other]
  have hinterpreter : m.chosenInterpreter.Unpaired := Text.unpaired_ofString _
  have hwriter : m.nesting.files ≤ m.nesting.configurations := by decide
  obtain ⟨entered, left, hentered, hleft, hfirst, -, hsecond, hthird, -⟩ :=
    installing_keeps_configuration h hservers hnumbers hinterpreter hwriter
  exact ⟨⟨h, hservers, hnumbers, hinterpreter, hwriter⟩, entered, left, hentered, hleft, hfirst,
    hsecond, hthird⟩

end Machine

end ZigAdvisor.Command
