import ZigAdvisor.Proofs.Build.ManifestValue
import ZigAdvisor.Proofs.Build.ScriptParts

/-!
# Texts between marks in generated documents

Scripts and manifests put the texts of others between quotation marks as they are. So such a text is
read back exactly if it has no quotation mark, no backslash and no control character in it, and a
text that has one can say anything (`smuggled_entry`).
-/

namespace ZigAdvisor

open Text Zig

/-- Whether what a script puts between marks may stand there as it is. -/
structure BuildOptions.IsVerbatim (o : BuildOptions) : Prop where
  target : Verbatim o.target
  dependencies : ∀ name ∈ o.dependencies, Verbatim name
  steps : ∀ name ∈ o.furtherSteps, Verbatim name

/-- The literals of a script are read back exactly if its texts are verbatim. -/
theorem BuildScript.quotations_generate_iff (o : BuildOptions) :
    quotations (tokens (generate o)) = quotations (tokens (header o)) ++ strings (literals o) ↔
      o.IsVerbatim := by
  rw [tokens_generate, quotations_append, List.append_cancel_left_eq, ← meant_scriptParts,
    quotations_write_iff, verbatim_scriptParts]
  exact ⟨fun ⟨htarget, hdependencies, hsteps⟩ => ⟨htarget, hdependencies, hsteps⟩,
    fun h => ⟨h.target, h.dependencies, h.steps⟩⟩

/-- The literals of a manifest are read back exactly if its texts are verbatim. -/
theorem Manifest.quotations_generate_iff (p : Project) (dependencies : List Dependency) :
    quotations (tokens (generate p dependencies)) = literals p dependencies ↔
      p.IsVerbatim ∧ ∀ d ∈ dependencies, d.IsVerbatim := by
  rw [← write_manifestParts, ← meant_manifestParts, quotations_write_iff, verbatim_manifestParts]

/-- Generated documents are well quoted exactly if all that they put between marks is verbatim. A
manifest has its packages as entries, in order and with the given names, addresses and hashes,
exactly if moreover each of them has a name that is no keyword. -/
theorem wellQuoted_iff (o : BuildOptions) (p : Project) (dependencies : List Dependency) :
    (quotations (tokens (BuildScript.generate o)) =
        quotations (tokens (BuildScript.header o)) ++ strings (BuildScript.literals o) ↔
      o.IsVerbatim) ∧
    (quotations (tokens (Manifest.generate p dependencies)) = Manifest.literals p dependencies ↔
      p.IsVerbatim ∧ ∀ d ∈ dependencies, d.IsVerbatim) ∧
    (Zon.read? (tokens (Manifest.generate p dependencies)) =
        some (Manifest.value p dependencies) ↔
      p.IsVerbatim ∧ ∀ d ∈ dependencies, d.IsVerbatim ∧ d.IsNamed) :=
  ⟨BuildScript.quotations_generate_iff o, Manifest.quotations_generate_iff p dependencies,
    Manifest.read?_generate_iff p dependencies⟩

def Zig.Zon.entries? (name : Text) : Zon → Option (List (Option Text))
  | .node members =>
    match members.lookup (some name) with
    | some (.node inner) => some (inner.map Prod.fst)
    | _ => none
  | .text _ => none

def Manifest.declared (source : Text) : Option (List (Option Text)) :=
  (Zon.read? (tokens source)).bind (Zon.entries? "dependencies")

/-- A package whose address closes its own literal and opens that of another one. -/
def Manifest.smuggler : Dependency :=
  .ofUrl "a" "x\", .hash = \"y\" \x7d, .evil = .\x7b .url = \"z"

theorem smuggled_entry : Manifest.declared (Manifest.generate .unnamed [Manifest.smuggler]) =
    some [some (ofString "a"), some (ofString "evil")] := by
  decide +kernel

end ZigAdvisor
