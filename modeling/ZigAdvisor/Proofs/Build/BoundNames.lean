import ZigAdvisor.Proofs.Build.ScriptParts

/-!
# The constants of a build script

A script binds the constants of its template, one for each package and one for each further step
(`BuildScript.constNames_generate`). Constants of packages and of steps differ in their endings, and
those of steps differ from `run_step` and `test_step`, because no further step is named `run` or
`test`. So a constant is bound twice exactly if two packages, or two steps, have different names
that are made the same variable (`BuildScript.nodup_boundNames_iff`).
-/

namespace ZigAdvisor

open Text

namespace Zig

def boundBy : List Token → List Text
  | .word name :: .equals :: _ => [name]
  | .word name :: .sign c :: _ => if c = ':' then [name] else []
  | _ => []

def constNames : List Token → List Text
  | [] => []
  | token :: ts => (if token = .word "const" then boundBy ts else []) ++ constNames ts

variable {ts us : List Token} {token : Token} {name : Text}

/-- Whether tokens do not end within a declaration. -/
def IsSettled (ts : List Token) : Prop := ∀ token ∈ ts.getLast?, token.isWord = false

instance (ts : List Token) : Decidable (IsSettled ts) :=
  inferInstanceAs (Decidable (∀ token ∈ ts.getLast?, token.isWord = false))

theorem boundBy_append (hne : ts ≠ []) (h : IsSettled ts) : boundBy (ts ++ us) = boundBy ts := by
  match ts, hne with
  | [token], _ =>
    have hword : token.isWord = false := h token rfl
    cases token <;> first | rfl | cases hword
  | token :: next :: ts, _ => cases token <;> cases next <;> rfl

theorem constNames_append (h : IsSettled ts) :
    constNames (ts ++ us) = constNames ts ++ constNames us := by
  induction ts with
  | nil => rfl
  | cons token ts ih =>
    by_cases hne : ts = []
    · subst hne
      have hconst : token ≠ .word "const" := by
        rintro rfl
        exact absurd (h _ rfl) (by decide)
      simp only [List.singleton_append, constNames, if_neg hconst, List.nil_append,
        List.append_nil]
    · have hrest : IsSettled ts := by
        rwa [IsSettled, ← List.getLast?_cons_of_ne_nil hne]
      rw [List.cons_append, constNames, constNames, boundBy_append hne hrest, ih hrest,
        List.append_assoc]

/-- What stands in front takes no name away. -/
theorem constNames_sublist (ts us : List Token) :
    (constNames us).Sublist (constNames (ts ++ us)) := by
  induction ts with
  | nil => exact List.Sublist.refl _
  | cons token ts ih =>
    rw [List.cons_append, constNames]
    exact ih.trans (List.sublist_append_right _ _)

/-- Whether tokens are whole declarations, which bind the given names. -/
def Binds (ts : List Token) (names : List Text) : Prop := IsSettled ts ∧ constNames ts = names

instance (ts : List Token) (names : List Text) : Decidable (Binds ts names) :=
  inferInstanceAs (Decidable (IsSettled ts ∧ constNames ts = names))

theorem Binds.append {a b : List Text} (ha : Binds ts a) (hb : Binds us b) :
    Binds (ts ++ us) (a ++ b) := by
  refine ⟨?_, ?_⟩
  · by_cases hne : us = []
    · rw [hne, List.append_nil]
      exact ha.1
    · rw [IsSettled, List.getLast?_append_of_ne_nil ts hne]
      exact hb.1
  · rw [constNames_append ha.1, ha.2, hb.2]

theorem binds_nil : Binds [] [] := by decide

theorem binds_flatMap {α : Type} {f : α → List Token} {g : α → Text} (xs : List α)
    (h : ∀ x ∈ xs, Binds (f x) [g x]) : Binds (xs.flatMap f) (xs.map g) := by
  induction xs with
  | nil => exact binds_nil
  | cons x xs ih =>
    rw [List.forall_mem_cons] at h
    exact h.1.append (ih h.2)

theorem isSettled_cons (hne : ts ≠ []) (h : IsSettled ts) : IsSettled (token :: ts) := by
  rwa [IsSettled, List.getLast?_cons_of_ne_nil hne]

/-- A declaration. -/
theorem binds_const (hback : Binds ts []) (hequals : ts.head? = some .equals) :
    Binds (.word "const" :: .word name :: ts) [name] := by
  obtain ⟨us, rfl⟩ := List.head?_eq_some_iff.mp hequals
  refine ⟨isSettled_cons (List.cons_ne_nil _ _) (isSettled_cons (List.cons_ne_nil _ _) hback.1), ?_⟩
  rw [constNames, constNames, hback.2]
  simp [boundBy]

/-- A word that is used. -/
theorem binds_use (hfront : Binds ts []) (hback : Binds us []) (hne : us ≠ [])
    (hbound : boundBy us = []) : Binds (ts ++ .word name :: us) [] := by
  apply hfront.append
  refine ⟨isSettled_cons hne hback.1, ?_⟩
  rw [constNames, hback.2, hbound, ite_self]
  rfl

theorem binds_literal (s : Text) : Binds (Part.literal s).tokens [] :=
  ⟨fun token htoken => by cases htoken; rfl, by simp [Part.tokens, constNames]⟩

/-! ## Variables -/

theorem identifier_ne_nil (name : Text) : identifier name ≠ [] := by
  unfold identifier
  split
  · decide
  · split <;> exact List.cons_ne_nil _ _

end Zig

def CodePoint.isPackageChar (c : CodePoint) : Bool :=
  c.isNameChar || c == ('-' : CodePoint) || c == ('.' : CodePoint)

namespace Zig

variable {name : Text}

theorem isNameChar_identifier (h : ∀ c ∈ name, c.isPackageChar = true) :
    ∀ c ∈ identifier name, c.isNameChar = true := by
  have hlow : CodePoint.isNameChar '_' = true := by decide
  have hother : CodePoint.isWord '-' = false ∧ CodePoint.isWord '.' = false := by decide
  have hwords : ∀ c ∈ name.map fun c => if c.isWord then c else ('_' : CodePoint),
      c.isNameChar = true := by
    rw [List.forall_mem_map]
    intro c hc
    split
    · next hword =>
      have hclass := h c hc
      simp only [CodePoint.isPackageChar, Bool.or_eq_true, beq_iff_eq] at hclass
      rcases hclass with (hname | rfl) | rfl
      · exact hname
      · rw [hother.1] at hword
        cases hword
      · rw [hother.2] at hword
        cases hword
    · exact hlow
  rcases identifier_eq name with hname | hname
  · rwa [hname]
  · rw [hname, List.forall_mem_cons]
    exact ⟨hlow, hwords⟩

theorem verbatim_of_isPackageChar (h : ∀ c ∈ name, c.isPackageChar = true) : Verbatim name := by
  intro c hc
  have hclass := h c hc
  simp only [CodePoint.isPackageChar, Bool.or_eq_true, beq_iff_eq] at hclass
  rcases hclass with (hname | rfl) | rfl
  · exact verbatim_of_isNameChar (t := [c]) (by simpa using hname) c (List.mem_singleton_self c)
  · decide
  · decide

end Zig

namespace BuildScript

open Zig

variable {name : Text} {o : BuildOptions}

namespace Setting

theorem tokens_part (s : Setting) (h : ∀ c ∈ identifier name, c.isNameChar = true) :
    (s.part name).tokens = Lexer.emitted .between s.front ++
      .word (s.variableName name) :: Lexer.emitted .between s.back := by
  obtain ⟨c, hback, hc⟩ := s.first
  obtain ⟨rest, hrest⟩ := List.head?_eq_some_iff.mp hback
  have hne : s.variableName name ≠ [] :=
    List.append_ne_nil_of_left_ne_nil (identifier_ne_nil name) _
  have hchars : ∀ c ∈ s.variableName name, c.isNameChar = true :=
    List.forall_mem_append.mpr ⟨h, s.isName⟩
  have hread : (s.part name).tokens =
      Lexer.emitted .between (s.front ++ (s.variableName name ++ s.back)) := rfl
  rw [hread, s.isCode.emitted_append, hrest, Lexer.emitted_word hne hchars hc]

end Setting

section

variable (h : ∀ c ∈ identifier name, c.isNameChar = true)
include h

theorem binds_lookup : Binds (lookup.part name).tokens [lookup.variableName name] := by
  have hfront : Lexer.emitted .between lookup.front = [.word "const"] := by decide
  rw [lookup.tokens_part h, hfront]
  exact binds_const (by decide) (by decide)

theorem binds_moduleOf : Binds (moduleOf.part name).tokens [] := by
  rw [moduleOf.tokens_part h]
  exact binds_use (by decide) (by decide) (by decide) (by decide)

theorem binds_making : Binds (making.part name).tokens [making.variableName name] := by
  have hfront : Lexer.emitted .between making.front = [.word "const"] := by decide
  rw [making.tokens_part h, hfront]
  exact binds_const (by decide) (by decide)

theorem binds_waiting : Binds (waiting.part name).tokens [] := by
  rw [waiting.tokens_part h]
  exact binds_use (by decide) (by decide) (by decide) (by decide)

/-- The block of a package binds one constant. -/
theorem binds_dependencyParts :
    Binds ((dependencyParts name).flatMap Part.tokens) [lookup.variableName name] := by
  have himport : Binds importPart.tokens [] := by
    simp only [importPart, Part.tokens]
    repeat rw [ofString_ofList]
    decide
  have hend : Binds (Lexer.emitted .between "));\n") [] := by decide
  exact (binds_lookup h).append ((binds_literal name).append (himport.append
    ((binds_literal name).append ((binds_moduleOf h).append
      ((binds_literal name).append hend)))))

/-- The block of a step binds one constant. -/
theorem binds_stepParts :
    Binds ((stepParts name).flatMap Part.tokens) [making.variableName name] := by
  have hcomma : Binds (Lexer.emitted .between ", ") [] := by decide
  have hblock := (binds_making h).append ((binds_literal name).append (hcomma.append
    ((binds_literal (purpose name)).append ((binds_waiting h).append binds_nil))))
  exact hblock

end

section

variable (hpackages : ∀ name ∈ o.packages, ∀ c ∈ name, c.isPackageChar = true)
  (hsteps : ∀ name ∈ o.furtherSteps, ∀ c ∈ name, c.isPackageChar = true)

include hpackages in
theorem binds_packageParts : Binds ((packageParts o).flatMap Part.tokens)
    (o.packages.map lookup.variableName) := by
  unfold packageParts
  split
  · next hnil =>
    rw [hnil]
    decide
  · rw [List.flatMap_assoc]
    apply binds_flatMap
    intro name hname
    exact binds_dependencyParts (isNameChar_identifier (hpackages name hname))

include hsteps in
theorem binds_furtherParts : Binds ((furtherParts o).flatMap Part.tokens)
    (o.furtherSteps.map making.variableName) := by
  have hremark : Binds (Lexer.emitted .between "\n    // Custom steps\n") [] := by decide
  unfold furtherParts
  split
  · next hnil =>
    rw [hnil]
    decide
  · rw [List.flatMap_cons, List.flatMap_assoc]
    apply hremark.append
    apply binds_flatMap
    intro name hname
    exact binds_stepParts (isNameChar_identifier (hsteps name hname))

end

/-! ## The names of a script -/

def bodyNames (o : BuildOptions) : List Text :=
  List.flatten [
    ["optimize", "exe"],
    o.packages.map lookup.variableName,
    ["run_cmd", "run_step", "unit_tests", "run_unit_tests", "test_step"],
    o.furtherSteps.map making.variableName]

def boundNames (o : BuildOptions) : List Text := List.flatten [["std", "target"], bodyNames o]

theorem binds_openingPart : Binds openingPart.tokens ["std", "target"] := by
  simp only [openingPart, Part.tokens]
  repeat rw [ofString_ofList]
  decide

theorem binds_bodyParts (hpackages : ∀ name ∈ o.packages, ∀ c ∈ name, c.isPackageChar = true)
    (hsteps : ∀ name ∈ o.furtherSteps, ∀ c ∈ name, c.isPackageChar = true) :
    Binds ((bodyParts o).flatMap Part.tokens) (bodyNames o) := by
  have hmode : Binds modePart.tokens ["optimize"] := by
    simp only [modePart, Part.tokens]
    repeat rw [ofString_ofList]
    decide
  have hoptimize : Binds (optimizePart o.mode).tokens [] := by
    cases o.mode <;> decide
  have hexecutable : Binds executablePart.tokens ["exe"] := by
    simp only [executablePart, Part.tokens]
    repeat rw [ofString_ofList]
    decide
  have hinstall : Binds installPart.tokens [] := by decide
  have hrun : Binds runAndTestPart.tokens
      ["run_cmd", "run_step", "unit_tests", "run_unit_tests", "test_step"] := by
    simp only [runAndTestPart, runAndTest, Part.tokens]
    repeat rw [ofString_ofList]
    decide +kernel
  have hend : Binds ([Part.code "\x7d\n"].flatMap Part.tokens) [] := by decide
  have hbody := hmode.append (hoptimize.append (hexecutable.append
    ((binds_packageParts hpackages).append (hinstall.append (hrun.append
      ((binds_furtherParts hsteps).append hend))))))
  simpa only [bodyParts, bodyNames, List.flatMap_cons, List.flatMap_append, List.flatten_cons,
    List.flatten_nil, List.append_nil, List.nil_append, List.cons_append] using hbody

theorem binds_targetParts (target : Text) :
    Binds ((targetParts target).flatMap Part.tokens) [] := by
  have hfront : Binds targetFront.tokens [] := by
    simp only [targetFront, Part.tokens]
    repeat rw [ofString_ofList]
    decide
  have hback : Binds targetBack.tokens [] := by
    simp only [targetBack, Part.tokens]
    repeat rw [ofString_ofList]
    decide
  unfold targetParts
  split
  · decide
  · exact hfront.append ((binds_literal target).append (hback.append binds_nil))

section

variable (hdependencies : ∀ name ∈ o.dependencies, ∀ c ∈ name, c.isPackageChar = true)
  (hsteps : ∀ name ∈ o.steps, ∀ c ∈ name, c.isPackageChar = true)
include hdependencies hsteps

theorem binds_body : Binds ((bodyParts o).flatMap Part.tokens) (bodyNames o) ∧
    ∀ s ∈ values (bodyParts o), Verbatim s := by
  have hfurther : ∀ name ∈ o.furtherSteps, ∀ c ∈ name, c.isPackageChar = true :=
    fun name hname => hsteps name (BuildOptions.mem_furtherSteps.mp hname).1
  have hpackages : ∀ name ∈ o.packages, ∀ c ∈ name, c.isPackageChar = true :=
    fun name hname => hdependencies name (BuildOptions.mem_packages.mp hname)
  refine ⟨binds_bodyParts hpackages hfurther, (verbatim_bodyParts o).mpr ⟨?_, ?_⟩⟩
  · exact fun name hname => verbatim_of_isPackageChar (hdependencies name hname)
  · exact fun name hname => verbatim_of_isPackageChar (hfurther name hname)

/-- A script binds its constants in order, whatever its release and its target are. -/
theorem boundNames_sublist : (boundNames o).Sublist (constNames (tokens (generate o))) := by
  obtain ⟨hbody, hverbatim⟩ := binds_body hdependencies hsteps
  have hread : tokens (generate o) = tokens (header o) ++ (openingPart.tokens ++
      (Lexer.emitted .between (targetArgument o.target) ++ (bodyParts o).flatMap Part.tokens)) := by
    have hopening : ∀ s ∈ openingPart.values, Verbatim s := fun s h => absurd h List.not_mem_nil
    rw [tokens_generate, scriptParts, write_cons, write_append, write_targetParts,
      tokens_part hopening, tokens_append (isCode_targetArgument o.target), tokens_write hverbatim]
  have hrest := constNames_sublist (Lexer.emitted .between (targetArgument o.target))
    ((bodyParts o).flatMap Part.tokens)
  rw [hbody.2] at hrest
  rw [hread]
  refine List.Sublist.trans ?_ (constNames_sublist _ _)
  rw [constNames_append binds_openingPart.1, binds_openingPart.2]
  simpa only [boundNames, List.flatten_cons, List.flatten_nil, List.append_nil] using
    hrest.append_left _

/-- It binds no other constants, unless the release or the target brings some in. -/
theorem constNames_generate (hversion : ('\n' : CodePoint) ∉ o.zigVersion)
    (htarget : Verbatim o.target) : constNames (tokens (generate o)) = boundNames o := by
  obtain ⟨hbody, hverbatim⟩ := binds_body hdependencies hsteps
  have hline : ('\n' : CodePoint) ∉ o.target :=
    fun h => absurd (ne_newline_of_standsRaw (htarget _ h).1) (by decide)
  have hall : ∀ s ∈ values (scriptParts o), Verbatim s := by
    rw [verbatim_scriptParts, ← verbatim_bodyParts]
    exact ⟨htarget, hverbatim⟩
  have hscript := binds_openingPart.append ((binds_targetParts o.target).append hbody)
  rw [tokens_generate, tokens_header hversion hline, tokens_write hall, scriptParts,
    List.flatMap_cons, List.flatMap_append, List.nil_append, hscript.2]
  simp only [boundNames, List.flatten_cons, List.flatten_nil, List.append_nil, List.nil_append]

end

/-! ## Distinct names -/

theorem nodup_eraseDups (names : List Text) : names.eraseDups.Nodup := by
  induction h : names.length using Nat.strong_induction_on generalizing names with
  | _ n ih =>
    cases names with
    | nil => exact List.nodup_nil
    | cons name names =>
      rw [List.eraseDups_cons, List.nodup_cons, List.mem_eraseDups]
      refine ⟨by simp, ih _ ?_ _ rfl⟩
      rw [← h, List.length_cons]
      exact Nat.lt_succ_of_le (List.length_filter_le _ _)

/-- A variable's name without low lines is made from itself only. -/
theorem eq_of_identifier_eq {w : Text} (hw : ('_' : CodePoint) ∉ w) (h : identifier name = w) :
    name = w := by
  subst h
  rcases identifier_eq name with hname | hname
  · rw [hname] at hw ⊢
    exact (map_eq_of_not_mem hw).symm
  · rw [hname] at hw
    exact absurd List.mem_cons_self hw

theorem nodup_map_variableName (s : Setting) {names : List Text} (hnames : names.Nodup) :
    (names.map s.variableName).Nodup ↔
      ∀ a ∈ names, ∀ b ∈ names, identifier a = identifier b → a = b := by
  rw [List.nodup_map_iff_inj_on hnames]
  simp only [Setting.variableName, List.append_cancel_right_eq]

def templateNames : List Text :=
  ["std", "target", "optimize", "exe", "run_cmd", "run_step", "unit_tests", "run_unit_tests",
    "test_step"]

theorem perm_boundNames (o : BuildOptions) : (boundNames o).Perm (templateNames ++
    (o.packages.map lookup.variableName ++ o.furtherSteps.map making.variableName)) := by
  have hbody := List.perm_append_comm_assoc (o.packages.map lookup.variableName)
    ["run_cmd", "run_step", "unit_tests", "run_unit_tests", "test_step"]
    (o.furtherSteps.map making.variableName)
  have hall := hbody.append_left ([ofString "std", ofString "target", ofString "optimize",
    ofString "exe"])
  simpa only [boundNames, bodyNames, templateNames, List.flatten_cons, List.flatten_nil,
    List.append_nil, List.cons_append, List.nil_append] using hall

/-- No package is bound to a constant of the template. -/
theorem lookup_not_mem_templateNames (name : Text) :
    lookup.variableName name ∉ templateNames := by
  have hends : ∀ w ∈ templateNames, ¬ ofString "_dep" <:+ w := by decide
  exact fun h => hends _ h (List.suffix_append _ _)

/-- No further step is bound to a constant of the template, since none has the name of a step of
the template. -/
theorem making_not_mem_templateNames (hname : name ∈ o.furtherSteps) :
    making.variableName name ∉ templateNames := by
  have hends : ∀ w ∈ templateNames, ofString "_step" <:+ w →
      w = ofString "run" ++ ofString "_step" ∨ w = ofString "test" ++ ofString "_step" := by
    decide
  have hlow : ('_' : CodePoint) ∉ ofString "run" ∧ ('_' : CodePoint) ∉ ofString "test" := by decide
  have hstandard : name ∉ BuildOptions.standardSteps :=
    (BuildOptions.mem_furtherSteps.mp hname).2.2
  intro h
  rcases hends _ h (List.suffix_append _ _) with hrun | htest
  · rw [eq_of_identifier_eq hlow.1 (List.append_cancel_right hrun)] at hstandard
    exact hstandard (by decide)
  · rw [eq_of_identifier_eq hlow.2 (List.append_cancel_right htest)] at hstandard
    exact hstandard (by decide)

/-- No package is bound to the constant of a step. -/
theorem lookup_ne_making (a b : Text) : lookup.variableName a ≠ making.variableName b := by
  intro h
  have hdep : ofString "_dep" <:+ making.variableName b := by
    rw [← h]
    exact List.suffix_append _ _
  have hstep : ofString "_step" <:+ making.variableName b := List.suffix_append _ _
  have hends := List.suffix_of_suffix_length_le hdep hstep (by decide)
  exact absurd hends (by decide)

/-- Constants are distinct exactly if no two packages, and no two steps, have different names that
are made the same variable. -/
theorem nodup_boundNames_iff (o : BuildOptions) : (boundNames o).Nodup ↔
    (∀ a ∈ o.dependencies, ∀ b ∈ o.dependencies, identifier a = identifier b → a = b) ∧
      ∀ a ∈ o.furtherSteps, ∀ b ∈ o.furtherSteps, identifier a = identifier b → a = b := by
  have hpackages : o.packages.Nodup := nodup_eraseDups _
  have hsteps : o.furtherSteps.Nodup := nodup_eraseDups _
  have htemplate : templateNames.Nodup := by decide
  have hfamilies : (o.packages.map lookup.variableName).Disjoint
      (o.furtherSteps.map making.variableName) := by
    intro w hpackage hstep
    obtain ⟨a, _, ha⟩ := List.mem_map.mp hpackage
    obtain ⟨b, _, hb⟩ := List.mem_map.mp hstep
    exact lookup_ne_making a b (ha.trans hb.symm)
  have hown : templateNames.Disjoint
      (o.packages.map lookup.variableName ++ o.furtherSteps.map making.variableName) := by
    intro w hw hother
    rcases List.mem_append.mp hother with hpackage | hstep
    · obtain ⟨a, _, ha⟩ := List.mem_map.mp hpackage
      exact lookup_not_mem_templateNames a (ha ▸ hw)
    · obtain ⟨b, hb, hname⟩ := List.mem_map.mp hstep
      exact making_not_mem_templateNames hb (hname ▸ hw)
  simp only [← BuildOptions.mem_packages]
  rw [(perm_boundNames o).nodup_iff, List.nodup_append', List.nodup_append',
    nodup_map_variableName _ hpackages, nodup_map_variableName _ hsteps]
  exact ⟨fun ⟨_, ⟨hpackages, hsteps, _⟩, _⟩ => ⟨hpackages, hsteps⟩,
    fun ⟨hpackages, hsteps⟩ => ⟨htemplate, ⟨hpackages, hsteps, hfamilies⟩, hown⟩⟩

/-- A script with ordinary names binds the constants of its template, its packages and its further
steps, and no others as long as the release and the target bring none in. It binds none twice
exactly if no two packages, and no two steps, have different names that are made the same
variable. -/
theorem binds_once_iff (o : BuildOptions)
    (hdependencies : ∀ name ∈ o.dependencies, ∀ c ∈ name, c.isPackageChar = true)
    (hsteps : ∀ name ∈ o.steps, ∀ c ∈ name, c.isPackageChar = true) :
    (boundNames o).Sublist (constNames (tokens (generate o))) ∧
    (('\n' : CodePoint) ∉ o.zigVersion → Verbatim o.target →
      constNames (tokens (generate o)) = boundNames o) ∧
    ((boundNames o).Nodup ↔
      (∀ a ∈ o.dependencies, ∀ b ∈ o.dependencies, identifier a = identifier b → a = b) ∧
        ∀ a ∈ o.furtherSteps, ∀ b ∈ o.furtherSteps, identifier a = identifier b → a = b) :=
  ⟨boundNames_sublist hdependencies hsteps, constNames_generate hdependencies hsteps,
    nodup_boundNames_iff o⟩

def distinct : BuildOptions where
  zigVersion := "0.12.0"
  mode := .debug
  target := []
  dependencies := ["zig-args", "3d"]
  steps := ["run", "docs", "zig-args"]

theorem binds_once_iff_distinct :
    constNames (tokens (generate distinct)) = boundNames distinct ∧
      (boundNames distinct).Nodup := by
  have hdependencies : ∀ name ∈ distinct.dependencies, ∀ c ∈ name, c.isPackageChar = true := by
    decide
  have hsteps : ∀ name ∈ distinct.steps, ∀ c ∈ name, c.isPackageChar = true := by decide
  have hbinds := binds_once_iff distinct hdependencies hsteps
  obtain ⟨_, hread, hnodup⟩ := hbinds
  exact ⟨hread (by decide) (by decide), hnodup.mpr ⟨by decide, by decide⟩⟩

def colliding : BuildOptions where
  zigVersion := "0.12.0"
  mode := .debug
  target := []
  dependencies := ["zig-args", "zig_args"]
  steps := []

/-- A script binds one constant for two packages of different names. -/
theorem binds_twice : colliding.dependencies.Nodup ∧
    (∀ name ∈ colliding.dependencies, ∀ c ∈ name, c.isPackageChar = true) ∧
    (constNames (tokens (generate colliding))).count (ofString "zig_args_dep") = 2 := by
  have hdependencies : ∀ name ∈ colliding.dependencies, ∀ c ∈ name, c.isPackageChar = true := by
    decide
  have hsteps : ∀ name ∈ colliding.steps, ∀ c ∈ name, c.isPackageChar = true := by decide
  rw [constNames_generate hdependencies hsteps (by decide) (by decide)]
  exact ⟨by decide, hdependencies, by decide⟩

end BuildScript

end ZigAdvisor
