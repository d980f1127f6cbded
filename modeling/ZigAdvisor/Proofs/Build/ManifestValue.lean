import ZigAdvisor.Proofs.Build.ManifestParts

/-!
# What a manifest says

A manifest should say the name and versions of its project, one entry for each package in order, and
the paths (`Manifest.value`). It does so exactly if all that it takes over is verbatim and every
package has a name that is no keyword (`Manifest.read?_generate_iff`).
-/

namespace ZigAdvisor

open Text

structure Dependency.IsNamed (d : Dependency) : Prop where
  verbatim : Zig.Verbatim d.name
  ne_nil : d.name ≠ []
  not_keyword : Zig.isKeyword d.name = false

namespace Manifest

open Zig Zon

def named (name : Text) (value : Zon) : Option Text × Zon := (some name, value)

def entryOf (d : Dependency) : Option Text × Zon :=
  named d.name (.node [named "url" (.text d.resolvedUrl), named "hash" (.text d.hash)])

def pathsOf : List (Option Text × Zon) :=
  [named "paths" (.node [
    (none, .text "build.zig"), (none, .text "build.zig.zon"), (none, .text "src")])]

def value (p : Project) (dependencies : List Dependency) : Zon :=
  .node (
    named "name" (.text p.name) ::
    named "version" (.text p.version) ::
    named "minimum_zig_version" (.text p.minimumZigVersion) ::
    named "dependencies" (.node (dependencies.map entryOf)) ::
    pathsOf)

variable {p : Project} {d : Dependency} {dependencies : List Dependency} {name : Text}

/-! ## Names -/

theorem withoutFinalNewline_of_verbatim (h : Verbatim name) : withoutFinalNewline name = name := by
  unfold withoutFinalNewline
  split
  · next hlast => exact absurd (h _ (List.mem_of_getLast? hlast)).1 (by decide)
  · rfl

theorem isBare_of_isKeyword (h : isKeyword name = true) : IsBare name := by
  have hkeywords : ∀ w ∈ keywords, IsBare w := by decide
  obtain ⟨w, hw, hname⟩ := List.any_eq_true.mp h
  rw [← eq_of_beq hname]
  exact hkeywords w hw

theorem field?_word (h : IsPlain name) (hkeyword : isKeyword name = false) :
    (Token.word name).field? = some name := by
  rw [Token.field?, hkeyword, h.head]
  rfl

theorem field?_nameToken (h : d.IsNamed) : (nameToken d.name).field? = some d.name := by
  by_cases hbare : IsBare d.name
  · have hword := withoutFinalNewline_of_verbatim h.verbatim
    have hplain := isPlain_of_isPlainName hbare
    rw [hword] at hplain
    rw [nameToken, if_pos hbare, hword, field?_word hplain h.not_keyword]
  · have hmarked : d.name.isEmpty = false := List.isEmpty_eq_false_iff.mpr h.ne_nil
    rw [nameToken, if_neg hbare, Token.field?, hmarked]
    rfl

/-- An entry whose name may stand in it and is spelled as it is has that name. -/
theorem isNamed_of_nameToken (hname : ¬ IsBare d.name → Verbatim d.name)
    (hspelled : (nameToken d.name).spelled = [d.name]) (hzon : (nameToken d.name).isZon = true) :
    d.IsNamed := by
  by_cases hbare : IsBare d.name
  · have hplain := isPlain_of_isPlainName hbare
    rw [nameToken, if_pos hbare] at hspelled hzon
    rw [(List.cons.inj hspelled).1] at hplain hzon
    refine ⟨verbatim_of_isNameChar hplain.isNameChar, hplain.ne_nil, ?_⟩
    rw [← Bool.not_eq_true]
    intro hkeyword
    have hnone : (Token.word d.name).field? = none := by
      rw [Token.field?, hkeyword]
      rfl
    have hsome : (Token.word d.name).field?.isSome = true := hzon
    rw [hnone] at hsome
    cases hsome
  · rw [nameToken, if_neg hbare] at hzon
    refine ⟨hname hbare, ?_, ?_⟩
    · intro hnil
      rw [hnil] at hzon
      cases hzon
    · rw [← Bool.not_eq_true]
      exact fun hkeyword => hbare (isBare_of_isKeyword hkeyword)

/-! ## Reading -/

/-- The entries of a manifest are read in order. -/
theorem members?_entries (hnamed : ∀ d ∈ dependencies, d.IsNamed) (k : ℕ) (ts : List Token) :
    members? (k + dependencies.length + 4) (dependencies.flatMap entryTokens ++ .closing :: ts) =
      some (dependencies.map entryOf, ts) := by
  have hurl : (Token.word "url").field? = some (ofString "url") := by decide
  have hhash : (Token.word "hash").field? = some (ofString "hash") := by decide
  induction dependencies with
  | nil => exact members?_closing
  | cons d dependencies ih =>
    rw [List.forall_mem_cons] at hnamed
    rw [List.flatMap_cons, List.append_assoc, List.map_cons, List.length_cons]
    refine members?_node (field?_nameToken hnamed.1) ?_ (ih hnamed.2)
    exact members?_string hurl (members?_string hhash members?_closing)

theorem members?_paths (k : ℕ) : members? (k + 5) (pathsTokens.drop 2) = some (pathsOf, []) := by
  have hpaths : (Token.word "paths").field? = some (ofString "paths") := by decide
  refine members?_node hpaths ?_ members?_closing
  exact members?_item (members?_item (members?_item members?_closing))

theorem length_le_entries (dependencies : List Dependency) :
    dependencies.length ≤ (dependencies.flatMap entryTokens).length := by
  induction dependencies with
  | nil => exact Nat.le_refl 0
  | cons d dependencies ih =>
    rw [List.flatMap_cons, List.length_append, List.length_cons, entryTokens, List.length_cons]
    omega

/-- The tokens that a manifest should have are read as what it should say. -/
theorem read?_manifestTokens (hnamed : ∀ d ∈ dependencies, d.IsNamed) :
    read? (manifestTokens p dependencies) = some (value p dependencies) := by
  have hname : (Token.word "name").field? = some (ofString "name") := by decide
  have hversion : (Token.word "version").field? = some (ofString "version") := by decide
  have hminimum : (Token.word "minimum_zig_version").field? =
      some (ofString "minimum_zig_version") := by decide
  have hdependencies : (Token.word "dependencies").field? = some (ofString "dependencies") := by
    decide
  have hread : manifestTokens p dependencies = .dot :: .opening ::
      ((projectTokens p).drop 2 ++ (dependencies.flatMap entryTokens ++ pathsTokens)) := rfl
  -- More members can be read than there are packages, since an entry is more than one token.
  obtain ⟨k, hk⟩ := Nat.exists_eq_add_of_le (length_le_entries dependencies)
  have hbound : ((projectTokens p).drop 2 ++
      (dependencies.flatMap entryTokens ++ pathsTokens)).length + 2 =
        (k + 30 + dependencies.length + 4) + 4 := by
    have hproject : ((projectTokens p).drop 2).length = 20 := rfl
    have hpaths : pathsTokens.length = 16 := rfl
    rw [List.length_append, List.length_append, hproject, hpaths]
    omega
  rw [hread]
  apply read?_of_members?
  rw [hbound]
  refine members?_string hname (members?_string hversion (members?_string hminimum ?_))
  refine members?_node hdependencies (members?_entries hnamed _ _) ?_
  rw [show k + 30 + dependencies.length + 4 = (k + 29 + dependencies.length) + 5 by omega]
  exact members?_paths _

theorem read?_generate (hproject : p.IsVerbatim)
    (hdependencies : ∀ d ∈ dependencies, d.IsVerbatim ∧ d.IsNamed) :
    read? (tokens (generate p dependencies)) = some (value p dependencies) := by
  have hverbatim : ∀ s ∈ values (manifestParts p dependencies), Verbatim s :=
    (verbatim_manifestParts p dependencies).mpr ⟨hproject, fun d hd => (hdependencies d hd).1⟩
  rw [← write_manifestParts, tokens_write hverbatim, tokens_manifestParts]
  exact read?_manifestTokens fun d hd => (hdependencies d hd).2

/-! ## What a manifest that is read tells of its strings -/

variable {rest : Text} {a : List Text}

theorem texts_entryOf (d : Dependency) (members : List (Option Text × Zon)) :
    memberTexts (entryOf d :: members) =
      d.name :: "url" :: d.resolvedUrl :: "hash" :: d.hash :: memberTexts members := by
  simp [entryOf, named, memberTexts, texts]

/-- An entry that spells the name of its package has that name in it. -/
theorem spelled_nameToken
    (h : spelling (Lexer.emitted .between (write (entryParts d) ++ rest)) = d.name :: a) :
    (nameToken d.name).spelled = [d.name] := by
  by_cases hbare : IsBare d.name
  · have hurl : urlText = (' ' : CodePoint) :: urlText.tail := by decide
    have hback : write (entryParts d) ++ rest = ofString "        ." ++ (d.name ++
        (' ' : CodePoint) :: (urlText.tail ++ (write (sourceParts d) ++ rest))) := by
      rw [entryParts, write_append, nameParts, dif_pos hbare, write_cons, write_nil, Part.text]
      conv_lhs => rw [hurl]
      simp only [List.append_assoc, List.cons_append, List.nil_append]
    rw [hback, emitted_bare hbare] at h
    rw [nameToken, if_pos hbare]
    exact congrArg (fun t => [t]) (List.cons.inj h).1
  · rw [nameToken, if_neg hbare]
    rfl

/-- If entries spell what they should, their packages have names and verbatim strings. -/
theorem isNamed_of_spelling
    (hzon : ∀ token ∈ Lexer.emitted .between (write (dependencies.flatMap entryParts) ++ rest),
      token.isZon = true)
    (h : spelling (Lexer.emitted .between (write (dependencies.flatMap entryParts) ++ rest)) =
      memberTexts (dependencies.map entryOf) ++ a) :
    ∀ d ∈ dependencies, d.IsVerbatim ∧ d.IsNamed := by
  induction dependencies with
  | nil => exact fun d hd => absurd hd List.not_mem_nil
  | cons d dependencies ih =>
    rw [List.flatMap_cons, write_append, List.append_assoc] at h hzon
    rw [List.map_cons, texts_entryOf] at h
    have hname := spelled_nameToken h
    have hspelling : spelling ((entryParts d).flatMap Part.tokens) =
        [d.name, "url", d.resolvedUrl, "hash", d.hash] := by
      have hentry : spelling (entryTokens d) = (nameToken d.name).spelled ++
          ([ofString "url", d.resolvedUrl, ofString "hash", d.hash]) := rfl
      rw [tokens_entryParts, hentry, hname]
      rfl
    have hverbatim := verbatim_of_spelling hzon (by rw [h, hspelling]; rfl)
    rw [emitted_write hverbatim, List.forall_mem_append] at hzon
    rw [emitted_write hverbatim, spelling_append, hspelling] at h
    have hd := (verbatim_entryParts d).mp hverbatim
    have htoken : (nameToken d.name).isZon = true := by
      apply hzon.1
      rw [tokens_entryParts, entryTokens]
      simp
    refine List.forall_mem_cons.mpr ⟨⟨hd, isNamed_of_nameToken hd.name hname htoken⟩, ?_⟩
    exact ih hzon.2 (List.append_cancel_left h)

/-- A manifest says what it should exactly if all that it takes over is verbatim and each package
has a name that is no keyword. -/
theorem read?_generate_iff (p : Project) (dependencies : List Dependency) :
    read? (tokens (generate p dependencies)) = some (value p dependencies) ↔
      p.IsVerbatim ∧ ∀ d ∈ dependencies, d.IsVerbatim ∧ d.IsNamed := by
  refine ⟨fun h => ?_, fun ⟨hproject, hdependencies⟩ => read?_generate hproject hdependencies⟩
  obtain ⟨hzon, h⟩ := spells_read? h
  have htexts : (value p dependencies).texts =
      spelling (projectTokens p) ++ (memberTexts (dependencies.map entryOf) ++
        memberTexts pathsOf) := by
    simp [value, named, texts, memberTexts, spelling, projectTokens, stringMember, Token.spelled]
  rw [← write_manifestParts, manifestParts, tokens, write_append, List.append_assoc] at h hzon
  rw [htexts, ← tokens_projectParts] at h
  have hproject := verbatim_of_spelling hzon h
  rw [emitted_write hproject, List.forall_mem_append, write_append, List.append_assoc] at hzon
  rw [emitted_write hproject, spelling_append, List.append_cancel_left_eq, write_append,
    List.append_assoc] at h
  exact ⟨(verbatim_projectParts p).mp hproject, isNamed_of_spelling hzon.2 h⟩

end Manifest

end ZigAdvisor
