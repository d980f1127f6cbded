import ZigAdvisor.Build.Manifest
import ZigAdvisor.Proofs.Zig.Zon

/-!
# The parts of a manifest

A manifest is code with the project's strings and the entries of its packages in between. The name
of a package stands in the code if it is a word (`Zig.IsBare`), and between marks otherwise; the
address and the hash stand between marks always (`write_manifestParts`).
-/

namespace ZigAdvisor

open Text

namespace Zig

variable {name w rest : Text} {c : CodePoint}

/-- Whether a name is written without marks: if it is a word, a line feed at its end apart. -/
def IsBare (name : Text) : Prop := isPlainName (withoutFinalNewline name) = true

instance (name : Text) : Decidable (IsBare name) :=
  inferInstanceAs (Decidable (isPlainName (withoutFinalNewline name) = true))

/-- Letters, digits and low lines, and no digit in front. -/
structure IsPlain (w : Text) : Prop where
  ne_nil : w ≠ []
  isNameChar : ∀ c ∈ w, c.isNameChar = true
  head : w.head?.any CodePoint.isAsciiDigit = false

theorem isPlain_of_isPlainName (h : isPlainName w = true) : IsPlain w := by
  cases w with
  | nil => cases h
  | cons c w =>
    obtain ⟨hfirst, hrest⟩ := Bool.and_eq_true_iff.mp h
    have hname : c.isNameChar = true := by
      simp only [CodePoint.isNameChar, Bool.or_eq_true] at hfirst ⊢
      tauto
    have hdigit : c.isAsciiDigit = false := by
      rcases (Bool.or_eq_true ..).mp hfirst with hletter | hlow
      · simp only [CodePoint.isAsciiLetter, Bool.or_eq_true, Bool.and_eq_true,
          decide_eq_true_eq] at hletter
        simp only [CodePoint.isAsciiDigit, Bool.and_eq_false_iff, decide_eq_false_iff_not]
        omega
      · rw [eq_of_beq hlow]
        rfl
    exact ⟨List.cons_ne_nil c w, List.forall_mem_cons.mpr ⟨hname, List.all_eq_true.mp hrest⟩,
      hdigit⟩

theorem withoutFinalNewline_of_isPlainName (h : isPlainName w = true) :
    withoutFinalNewline w = w := by
  unfold withoutFinalNewline
  split
  · next hlast =>
    have hmem := List.mem_of_getLast? hlast
    exact absurd ((isPlain_of_isPlainName h).isNameChar _ hmem) (by decide)
  · rfl

theorem field_of_isBare (h : IsBare name) : field name = ('.' : CodePoint) :: name := by
  have hbare : (isPlainName name || isPlainName (withoutFinalNewline name)) = true := by
    rw [h, Bool.or_true]
  rw [field, if_pos hbare]
  exact congrArg _ (List.append_nil name)

theorem field_of_not_isBare (h : ¬ IsBare name) :
    field name = ('.' : CodePoint) :: '@' :: .quote :: (name ++ [.quote]) := by
  have hplain : isPlainName name ≠ true := by
    intro hplain
    rw [IsBare, withoutFinalNewline_of_isPlainName hplain] at h
    exact h hplain
  have hmarked : ¬ (isPlainName name || isPlainName (withoutFinalNewline name)) = true := by
    rw [Bool.or_eq_true, not_or]
    exact ⟨hplain, h⟩
  rw [field, if_neg hmarked]
  rfl

/-- A name and the word it is written as. -/
theorem eq_or_eq_of_withoutFinalNewline (name : Text) :
    name = withoutFinalNewline name ∨ name = withoutFinalNewline name ++ [('\n' : CodePoint)] := by
  unfold withoutFinalNewline
  split
  · next hlast =>
    obtain ⟨front, rfl⟩ := List.getLast?_eq_some_iff.mp hlast
    rw [List.dropLast_concat]
    exact Or.inr rfl
  · exact Or.inl rfl

end Zig

namespace Manifest

open Zig

theorem quiet_of_isBare {name : Text} (h : IsBare name) : ∀ c ∈ name, Quiet c := by
  have hword : ∀ c ∈ withoutFinalNewline name, Quiet c :=
    fun c hc => quiet_of_isNameChar ((isPlain_of_isPlainName h).isNameChar c hc)
  rcases eq_or_eq_of_withoutFinalNewline name with hname | hname
  · rw [hname]
    exact hword
  · rw [hname, List.forall_mem_append, List.forall_mem_singleton]
    exact ⟨hword, by decide⟩

def namingPart : Part := .code (concat [".\x7b\n", "    .name = "])

def versionPart : Part := .code (concat [",\n", "    .version = "])

def minimumPart : Part := .code (concat [",\n", "    .minimum_zig_version = "])

def dependenciesPart : Part := .code (concat [",\n", "\n", "    .dependencies = .\x7b\n"])

def pathsPart : Part :=
  .code (concat [
    "    \x7d,\n",
    "\n",
    "    .paths = .\x7b\n",
    "        \"build.zig\",\n",
    "        \"build.zig.zon\",\n",
    "        \"src\",\n",
    "    \x7d,\n",
    "\x7d\n"])

def urlText : Text := concat [" = .\x7b\n", "            .url = "]

theorem isCode_bare {name : Text} (h : IsBare name) :
    IsCode (ofString "        ." ++ (name ++ urlText)) := by
  have hurl : urlText = urlText.dropLast ++ [(' ' : CodePoint)] := by decide
  have hfixed : (∀ c ∈ ofString "        .", Quiet c) ∧ ∀ c ∈ urlText.dropLast, Quiet c := by
    decide
  rw [hurl, ← List.append_assoc, ← List.append_assoc]
  apply isCode_of_quiet _ (by decide) (by decide)
  rw [List.forall_mem_append, List.forall_mem_append]
  exact ⟨⟨hfixed.1, quiet_of_isBare h⟩, hfixed.2⟩

def nameParts (name : Text) : List Part :=
  if h : IsBare name then [.code (ofString "        ." ++ (name ++ urlText)) (isCode_bare h)]
  else [.code "        .", .name name, .code urlText (by decide)]

def sourceParts (d : Dependency) : List Part :=
  [.literal d.resolvedUrl, .code (concat [",\n", "            .hash = "]), .literal d.hash,
    .code (concat [",\n", "        \x7d,\n"])]

def entryParts (d : Dependency) : List Part := nameParts d.name ++ sourceParts d

def projectParts (p : Project) : List Part :=
  [namingPart, .literal p.name, versionPart, .literal p.version, minimumPart,
    .literal p.minimumZigVersion, dependenciesPart]

def manifestParts (p : Project) (dependencies : List Dependency) : List Part :=
  projectParts p ++ (dependencies.flatMap entryParts ++ [pathsPart])

variable {p : Project} {d : Dependency} {dependencies : List Dependency}

/-! ## The text -/

theorem write_nameParts (name : Text) :
    write (nameParts name) = concat ["        ", field name, urlText] := by
  have hdot : ofString "        ." = ofString "        " ++ [('.' : CodePoint)] := by decide
  unfold nameParts
  split
  · next h => simp [write, Part.text, field_of_isBare h, hdot]
  · next h => simp [write, Part.text, field_of_not_isBare h, hdot]

theorem write_entryParts (d : Dependency) : write (entryParts d) = entry d := by
  have hurl : ofString "            .url = \"" = ofString "            .url = " ++ [.quote] := by
    decide
  have hhash : ofString "            .hash = \"" = ofString "            .hash = " ++ [.quote] := by
    decide
  have hnext : ofString "\",\n" = .quote :: ofString ",\n" := by decide
  rw [entryParts, write_append, write_nameParts]
  simp [sourceParts, write, Part.text, urlText, entry, concat, hurl, hhash, hnext]

theorem write_manifestParts (p : Project) (dependencies : List Dependency) :
    write (manifestParts p dependencies) = generate p dependencies := by
  have hname : ofString "    .name = \"" = ofString "    .name = " ++ [.quote] := by decide
  have hversion : ofString "    .version = \"" = ofString "    .version = " ++ [.quote] := by
    decide
  have hminimum : ofString "    .minimum_zig_version = \"" =
      ofString "    .minimum_zig_version = " ++ [.quote] := by decide
  have hnext : ofString "\",\n" = .quote :: ofString ",\n" := by decide
  simp [manifestParts, projectParts, namingPart, versionPart, minimumPart, dependenciesPart,
    pathsPart, write_cons, write_append, write_flatMap write_entryParts, Part.text, generate, concat,
    hname, hversion, hminimum, hnext]

/-! ## The tokens -/

/-- The token of a package's name: a word without the line feed at its end, or a quoted name. -/
def nameToken (name : Text) : Token :=
  if IsBare name then .word (withoutFinalNewline name) else .quoted .name name

def stringMember (name : String) (t : Text) : List Token :=
  [.dot, .word name, .equals, .quoted .string t, .comma]

def entryTokens (d : Dependency) : List Token :=
  .dot :: nameToken d.name :: .equals :: .dot :: .opening ::
    (stringMember "url" d.resolvedUrl ++ (stringMember "hash" d.hash ++ [.closing, .comma]))

def pathsTokens : List Token :=
  [.closing, .comma, .dot, .word "paths", .equals, .dot, .opening, .quoted .string "build.zig",
    .comma, .quoted .string "build.zig.zon", .comma, .quoted .string "src", .comma, .closing,
    .comma, .closing]

def projectTokens (p : Project) : List Token :=
  List.flatten [
    [.dot, .opening],
    stringMember "name" p.name,
    stringMember "version" p.version,
    stringMember "minimum_zig_version" p.minimumZigVersion,
    [.dot, .word "dependencies", .equals, .dot, .opening]]

def manifestTokens (p : Project) (dependencies : List Dependency) : List Token :=
  projectTokens p ++ (dependencies.flatMap entryTokens ++ pathsTokens)

theorem emitted_bare {name : Text} (h : IsBare name) (rest : Text) :
    Lexer.emitted .between (ofString "        ." ++ (name ++ (' ' : CodePoint) :: rest)) =
      .dot :: .word (withoutFinalNewline name) :: Lexer.emitted .between rest := by
  obtain ⟨hne, hchars, -⟩ := isPlain_of_isPlainName h
  have hname := eq_or_eq_of_withoutFinalNewline name
  generalize withoutFinalNewline name = w at hne hchars hname
  have hfront : IsCode "        ." := by decide
  have hdot : Lexer.emitted .between "        ." = [.dot] := by decide
  rw [hfront.emitted_append, hdot]
  rcases hname with rfl | rfl
  · rw [Lexer.emitted_word hne hchars (by decide)]
    rfl
  · rw [← List.append_cons, Lexer.emitted_word hne hchars (by decide)]
    rfl

theorem tokens_nameParts (name : Text) : (nameParts name).flatMap Part.tokens =
    [.dot, nameToken name, .equals, .dot, .opening, .dot, .word "url", .equals] := by
  have hurl : urlText = (' ' : CodePoint) :: urlText.tail := by decide
  have htail : Lexer.emitted .between urlText.tail =
      [.equals, .dot, .opening, .dot, .word "url", .equals] := by decide
  have hdot : Lexer.emitted .between "        ." = [.dot] := by decide
  have hmarked : Lexer.emitted .between urlText =
      [.equals, .dot, .opening, .dot, .word "url", .equals] := by decide
  unfold nameParts nameToken
  split
  · next h =>
    rw [List.flatMap_singleton, Part.tokens, hurl, emitted_bare h, htail]
  · simp only [List.flatMap_cons, List.flatMap_nil, Part.tokens, hdot, hmarked]
    rfl

theorem tokens_entryParts (d : Dependency) :
    (entryParts d).flatMap Part.tokens = entryTokens d := by
  have hhash : Lexer.emitted .between (concat [",\n", "            .hash = "]) =
      [.comma, .dot, .word "hash", .equals] := by decide
  have hend : Lexer.emitted .between (concat [",\n", "        \x7d,\n"]) =
      [.comma, .closing, .comma] := by decide
  rw [entryParts, List.flatMap_append, tokens_nameParts]
  simp only [sourceParts, List.flatMap_cons, List.flatMap_nil, Part.tokens, hhash, hend]
  rfl

theorem tokens_projectParts (p : Project) :
    (projectParts p).flatMap Part.tokens = projectTokens p := by
  have hnaming : namingPart.tokens = [.dot, .opening, .dot, .word "name", .equals] := by
    decide
  have hversion : versionPart.tokens = [.comma, .dot, .word "version", .equals] := by
    decide
  have hminimum : minimumPart.tokens = [.comma, .dot, .word "minimum_zig_version", .equals] := by
    decide
  have hdependencies : dependenciesPart.tokens =
      [.comma, .dot, .word "dependencies", .equals, .dot, .opening] := by decide
  have hliteral (s : Text) : (Part.literal s).tokens = [.quoted .string s] := rfl
  simp only [projectParts, List.flatMap_cons, List.flatMap_nil, hnaming, hversion, hminimum,
    hdependencies, hliteral]
  rfl

theorem tokens_pathsPart : pathsPart.tokens = pathsTokens := by
  simp only [pathsPart, Part.tokens]
  repeat rw [ofString_ofList]
  decide

theorem tokens_manifestParts (p : Project) (dependencies : List Dependency) :
    (manifestParts p dependencies).flatMap Part.tokens = manifestTokens p dependencies := by
  have hentries : (dependencies.flatMap entryParts).flatMap Part.tokens =
      dependencies.flatMap entryTokens := by
    rw [List.flatMap_assoc]
    exact List.flatMap_congr fun d _ => tokens_entryParts d
  rw [manifestParts, List.flatMap_append, List.flatMap_append, List.flatMap_singleton,
    tokens_projectParts, hentries, tokens_pathsPart, manifestTokens]

/-! ## What stands between marks -/

def entryLiterals (d : Dependency) : List Token :=
  (if IsBare d.name then [] else [.quoted .name d.name]) ++ strings [d.resolvedUrl, d.hash]

def literals (p : Project) (dependencies : List Dependency) : List Token :=
  List.flatten [
    strings [p.name, p.version, p.minimumZigVersion],
    dependencies.flatMap entryLiterals,
    strings ["build.zig", "build.zig.zon", "src"]]

theorem quotations_entryTokens (d : Dependency) :
    quotations (entryTokens d) = entryLiterals d := by
  by_cases h : IsBare d.name
  · rw [entryTokens, nameToken, entryLiterals, if_pos h, if_pos h]
    rfl
  · rw [entryTokens, nameToken, entryLiterals, if_neg h, if_neg h]
    rfl

/-- A manifest means the strings of its project and its packages. -/
theorem meant_manifestParts (p : Project) (dependencies : List Dependency) :
    meant (manifestParts p dependencies) = literals p dependencies := by
  have hproject : quotations (projectTokens p) =
      strings [p.name, p.version, p.minimumZigVersion] := rfl
  have hentries : quotations (dependencies.flatMap entryTokens) =
      dependencies.flatMap entryLiterals := by
    rw [quotations, List.filter_flatMap]
    exact List.flatMap_congr fun d _ => quotations_entryTokens d
  have hpaths : quotations pathsTokens = strings ["build.zig", "build.zig.zon", "src"] := rfl
  rw [meant, tokens_manifestParts, manifestTokens, quotations_append, quotations_append, hproject,
    hentries, hpaths]
  simp only [literals, List.flatten_cons, List.flatten_nil, List.append_nil]

end Manifest

structure Project.IsVerbatim (p : Project) : Prop where
  name : Zig.Verbatim p.name
  version : Zig.Verbatim p.version
  minimumZigVersion : Zig.Verbatim p.minimumZigVersion

/-- Whether what the entry of a package puts between marks may stand there as it is. -/
structure Dependency.IsVerbatim (d : Dependency) : Prop where
  name : ¬ Zig.IsBare d.name → Zig.Verbatim d.name
  url : Zig.Verbatim d.resolvedUrl
  hash : Zig.Verbatim d.hash

namespace Manifest

open Zig

theorem verbatim_projectParts (p : Project) :
    (∀ s ∈ values (projectParts p), Verbatim s) ↔ p.IsVerbatim := by
  have hvalues : values (projectParts p) = [p.name, p.version, p.minimumZigVersion] := rfl
  rw [hvalues, List.forall_mem_cons, List.forall_mem_cons, List.forall_mem_singleton]
  exact ⟨fun ⟨hname, hversion, hminimum⟩ => ⟨hname, hversion, hminimum⟩,
    fun h => ⟨h.name, h.version, h.minimumZigVersion⟩⟩

theorem verbatim_entryParts (d : Dependency) :
    (∀ s ∈ values (entryParts d), Verbatim s) ↔ d.IsVerbatim := by
  have hname : (∀ s ∈ values (nameParts d.name), Verbatim s) ↔
      (¬ IsBare d.name → Verbatim d.name) := by
    unfold nameParts
    split
    · next h => exact ⟨fun _ hmarked => absurd h hmarked, fun _ s hs => absurd hs List.not_mem_nil⟩
    · next h => exact List.forall_mem_singleton.trans ⟨fun hname _ => hname, fun hname => hname h⟩
  have hvalues : values (entryParts d) = values (nameParts d.name) ++ [d.resolvedUrl, d.hash] :=
    values_append _ _
  rw [hvalues, List.forall_mem_append, List.forall_mem_cons, List.forall_mem_singleton, hname]
  constructor
  · rintro ⟨hname, hurl, hhash⟩
    exact ⟨hname, hurl, hhash⟩
  · intro h
    exact ⟨h.name, h.url, h.hash⟩

/-- What a manifest puts between marks belongs to its project and its packages. -/
theorem verbatim_manifestParts (p : Project) (dependencies : List Dependency) :
    (∀ s ∈ values (manifestParts p dependencies), Verbatim s) ↔
      p.IsVerbatim ∧ ∀ d ∈ dependencies, d.IsVerbatim := by
  have hpaths : values [pathsPart] = [] := rfl
  rw [manifestParts, values_append, values_append, hpaths, List.append_nil,
    List.forall_mem_append, verbatim_projectParts, values_flatMap fun _ => rfl,
    List.forall_mem_flatMap]
  simp only [verbatim_entryParts]

end Manifest

end ZigAdvisor
