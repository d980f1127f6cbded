import ZigAdvisor.Command.Installation
import ZigAdvisor.Proofs.Json.Nested
import ZigAdvisor.Proofs.Json.Reading
import ZigAdvisor.Proofs.Json.RoundTrip
import ZigAdvisor.Proofs.Text.Lines
import ZigAdvisor.Proofs.Text.Occurrence
import ZigAdvisor.Proofs.Text.Utf8

/-!
# Configurations

A configuration that is written to its file is read back as it was, by a reader that goes as deep.
Entering the server a second time changes nothing, and taking it out again leaves what was there
without it. Neither makes a configuration too deep for a writer that goes as deep as the reader.
-/

namespace ZigAdvisor.Installation

open Json (Readable AnyDouble Survives Within find? put erase)

variable {P : Double → Prop} {depth : ℕ} {file : Bytes} {j interpreterEntry : Json}
  {members servers : List (Text × Json)} {interpreter : Text}

/-! ## Files -/

def content (configuration : Json) : Bytes := Utf8.encode (configuration.spread ++ "\n")

def Holds (depth : ℕ) (file : Bytes) (j : Json) : Prop :=
  ∃ text, Utf8.decode file = .ok text ∧ Json.parseText text.withNewlines depth = .ok j

def NotJson (depth : ℕ) (file : Bytes) : Prop :=
  ∃ text problem rest, Utf8.decode file = .ok text ∧
    Json.parseText text.withNewlines depth = .error (.malformed problem rest)

theorem Holds.within (h : Holds depth file j) : Within depth j := by
  obtain ⟨text, -, hparse⟩ := h
  exact Json.within_of_parseText hparse

/-- What is read from a file is within the limits of the reader. -/
theorem Holds.readable (h : Holds depth file j) : Readable AnyDouble depth j := by
  obtain ⟨text, hdecode, hparse⟩ := h
  have hplain : text.withNewlines.Plain := by
    intro c hc
    rcases Text.mem_withNewlines hc with hmem | rfl
    · exact Utf8.plain_decode hdecode c hmem
    · decide
  exact Json.readable_of_parseText hparse hplain

/-- What is written is printable or a line feed. -/
theorem mem_spread {c : CodePoint} (h : c ∈ j.spread ++ Text.ofString "\n") :
    c.IsPrintableAscii ∨ c = '\n' := by
  rcases List.mem_append.mp h with hspread | hfeed
  · exact (Json.laid_write (.indented 0) j c hspread).imp_right And.right
  · exact Or.inr (List.mem_singleton.mp hfeed)

theorem holds_content (h : Readable Survives depth j) : Holds depth (content j) j := by
  have hascii : ∀ c ∈ j.spread ++ Text.ofString "\n", c.isAscii = true := by
    intro c hc
    rcases mem_spread hc with hprintable | rfl
    · exact hprintable.isAscii
    · decide
  have hreturn : ∀ c ∈ j.spread ++ Text.ofString "\n", c ≠ ('\r' : CodePoint) := by
    intro c hc
    rcases mem_spread hc with hprintable | rfl
    · exact hprintable.ne_return
    · decide
  have hmark : (j.spread ++ Text.ofString "\n").head? ≠ some (.ofNat 0xFEFF) := by
    intro hhead
    exact absurd (hascii _ (List.mem_of_mem_head? hhead)) (by decide)
  refine ⟨_, Utf8.decode_encode hascii, ?_⟩
  rw [Text.withNewlines_of_forall_ne hreturn, Json.parseText, if_neg hmark]
  exact Json.parse_write_append h (.indented 0) (by decide)

/-! ## Servers -/

/-- Whether a configuration gives its servers as an object; it has none if it does not mention
them. -/
def HasServers (members servers : List (Text × Json)) : Prop :=
  find? members serversKey = some (.obj servers) ∨
    find? members serversKey = none ∧ servers = []

def withServers (members servers : List (Text × Json)) : List (Text × Json) :=
  put serversKey (.obj servers) members

theorem hasServers_withServers : HasServers (withServers members servers) servers :=
  Or.inl Json.find?_put_self

theorem withServers_withServers (others : List (Text × Json)) :
    withServers (withServers members servers) others = withServers members others :=
  Json.put_put

theorem HasServers.readable (h : HasServers members servers)
    (hmembers : Readable P (depth + 2) (.obj members)) : Readable P (depth + 1) (.obj servers) := by
  rcases h with hfind | ⟨-, rfl⟩
  · exact hmembers.of_find?_succ hfind
  · exact .obj (by simp) (by simp) (by simp)

theorem readable_entry (h : interpreter.Unpaired) : Readable P 2 (entry interpreter) := by
  have hstart : Readable P 1 (.arr [.constant "-m", .constant "zig_mcp.server"]) :=
    .arr (by simp [Json.readable_constant])
  refine Json.readable_object [("command", .str interpreter), ("args", _)] (by simp) ?_
  simp only [List.forall_mem_cons]
  exact ⟨.str h, hstart, by simp⟩

theorem readable_withServers (hmembers : Readable P (depth + 1) (.obj members))
    (hservers : Readable P depth (.obj servers)) :
    Readable P (depth + 1) (.obj (withServers members servers)) :=
  hmembers.put (Text.unpaired_ofString _) hservers

theorem HasServers.within (h : HasServers members servers)
    (hmembers : Within (depth + 2) (.obj members)) : Within (depth + 1) (.obj servers) := by
  rcases h with hfind | ⟨-, rfl⟩
  · exact hmembers.of_find? hfind
  · exact List.forall_mem_nil _

theorem within_entry (interpreter : Text) : Within 2 (entry interpreter) := by
  simp [entry, Within]

/-- Where there is room for the entry, it does not make a configuration deeper. -/
theorem HasServers.within_put (h : HasServers members servers)
    (hmembers : Within (depth + 4) (.obj members)) (interpreter : Text) :
    Within (depth + 4) (.obj (withServers members (put key (entry interpreter) servers))) :=
  hmembers.put ((h.within hmembers).put ((within_entry interpreter).mono (by omega)))

theorem within_erase (hfind : find? members serversKey = some (.obj servers))
    (hmembers : Within depth (.obj members)) :
    Within depth (.obj (withServers members (erase key servers))) := by
  cases depth with
  | zero => exact hmembers
  | succ depth => exact hmembers.put ((hmembers.of_find? hfind).erase key)

/-! ## Entering and taking out -/

theorem register_of_hasServers (h : HasServers members servers) :
    register interpreterEntry (.obj members) =
      .ok (.obj (withServers members (put key interpreterEntry servers))) := by
  rcases h with hfind | ⟨hfind, rfl⟩
  · simp only [register, hfind, withServers]
  · simp only [register, hfind, withServers, put]

theorem unregister_of_find?_eq_none (h : HasServers members servers)
    (hkey : find? servers key = none) : unregister (.obj members) = .ok none := by
  rcases h with hfind | ⟨hfind, -⟩
  · simp only [unregister, hfind, mentions?, hkey]
    rfl
  · simp only [unregister, hfind]

theorem unregister_of_find? (h : HasServers members servers)
    (hkey : find? servers key = some j) :
    unregister (.obj members) = .ok (some (.obj (withServers members (erase key servers)))) := by
  rcases h with hfind | ⟨-, rfl⟩
  · simp only [unregister, hfind, mentions?, hkey, withServers]
    rfl
  · cases hkey

/-- Servers from which the entry can be taken out: an object, or a list or a text that does not
mention the key. -/
inductive Separable : Json → Prop
  | obj (servers : List (Text × Json)) : Separable (.obj servers)
  | arr {items : List Json} (h : .str key ∉ items) : Separable (.arr items)
  | str {t : Text} (h : ¬ key <:+: t) : Separable (.str t)

theorem exists_register_iff (interpreterEntry : Json) :
    (∃ changed, register interpreterEntry j = .ok changed) ↔
      ∃ members servers, j = .obj members ∧ HasServers members servers := by
  constructor
  · rintro ⟨changed, h⟩
    cases j with
    | obj members =>
      rw [register] at h
      cases hfind : find? members serversKey with
      | none => exact ⟨members, [], rfl, Or.inr ⟨hfind, rfl⟩⟩
      | some value =>
        cases value with
        | obj servers => exact ⟨members, servers, rfl, Or.inl hfind⟩
        | _ => simp [hfind] at h
    | _ => cases h
  · rintro ⟨members, servers, rfl, hservers⟩
    exact ⟨_, register_of_hasServers hservers⟩

/-- What a configuration becomes where the server is entered. -/
theorem register_eq_ok_iff {changed : Json} : register interpreterEntry j = .ok changed ↔
    ∃ members servers, j = .obj members ∧ HasServers members servers ∧
      changed = .obj (withServers members (put key interpreterEntry servers)) := by
  constructor
  · intro h
    obtain ⟨members, servers, rfl, hservers⟩ := (exists_register_iff _).mp ⟨changed, h⟩
    rw [register_of_hasServers hservers] at h
    exact ⟨members, servers, rfl, hservers, (Except.ok.inj h).symm⟩
  · rintro ⟨members, servers, rfl, hservers, rfl⟩
    exact register_of_hasServers hservers

theorem any_text?_iff {items : List Json} :
    (items.any fun i => i.text? == some key) = true ↔ .str key ∈ items := by
  simp [List.any_eq_true, Json.text?_eq_some]

theorem separable_of_unregister {changed : Option Json} {value : Json}
    (h : unregister (.obj members) = .ok changed) (hfind : find? members serversKey = some value) :
    Separable value := by
  rw [unregister, hfind] at h
  cases value with
  | obj servers => exact .obj servers
  | arr items =>
    refine .arr fun hmem => ?_
    simp [mentions?, any_text?_iff.mpr hmem] at h
  | str t =>
    refine .str fun hwithin => ?_
    simp [mentions?, Text.contains_iff.mpr hwithin] at h
  | _ => cases h

theorem exists_unregister_of_separable {value : Json} (h : Separable value)
    (hfind : find? members serversKey = some value) :
    ∃ changed, unregister (.obj members) = .ok changed := by
  rw [unregister, hfind]
  cases h with
  | obj servers =>
    cases hkey : (find? servers key).isSome with
    | false => exact ⟨none, by simp [mentions?, hkey]⟩
    | true => exact ⟨_, by simp only [mentions?, hkey]; rfl⟩
  | @arr items hmem =>
    have hany := Bool.eq_false_iff.mpr (mt any_text?_iff.mp hmem)
    exact ⟨none, by simp only [mentions?, hany]⟩
  | @str t hwithin =>
    have hcontains := Bool.eq_false_iff.mpr (mt Text.contains_iff.mp hwithin)
    exact ⟨none, by simp only [mentions?, hcontains]⟩

theorem exists_unregister_iff :
    (∃ changed, unregister j = .ok changed) ↔
      ∃ members, j = .obj members ∧ ∀ value, find? members serversKey = some value →
        Separable value := by
  constructor
  · rintro ⟨changed, h⟩
    cases j with
    | obj members => exact ⟨members, rfl, fun _ hfind => separable_of_unregister h hfind⟩
    | _ => cases h
  · rintro ⟨members, rfl, h⟩
    cases hfind : find? members serversKey with
    | none => exact ⟨none, by rw [unregister, hfind]⟩
    | some value => exact exists_unregister_of_separable (h value hfind) hfind

/-- What is left where the server is taken out. -/
theorem unregister_eq_some_iff : unregister (.obj members) = .ok (some j) ↔
    ∃ servers, find? members serversKey = some (.obj servers) ∧ key ∈ servers.map Prod.fst ∧
      j = .obj (withServers members (erase key servers)) := by
  constructor
  · intro h
    rw [unregister] at h
    split at h
    · cases h
    · next value hfind =>
      split at h
      · cases h
      · cases h
      · next entries hmentions =>
        simp only [mentions?, Option.some.injEq] at hmentions
        refine ⟨entries, hfind, ?_, (Option.some.inj (Except.ok.inj h)).symm⟩
        by_contra hkey
        rw [Json.find?_eq_none_iff.mpr hkey] at hmentions
        cases hmentions
      · cases h
  · rintro ⟨servers, hfind, hkey, rfl⟩
    obtain ⟨old, hold⟩ := Option.ne_none_iff_exists'.mp fun hnone =>
      Json.find?_eq_none_iff.mp hnone hkey
    exact unregister_of_find? (Or.inl hfind) hold

/-- Taking the server out again leaves the servers without it. -/
theorem unregister_registered :
    unregister (.obj (withServers members (put key interpreterEntry servers))) =
      .ok (some (.obj (withServers members (erase key servers)))) := by
  rw [unregister_of_find? hasServers_withServers Json.find?_put_self, withServers_withServers,
    Json.erase_put]

end ZigAdvisor.Installation
