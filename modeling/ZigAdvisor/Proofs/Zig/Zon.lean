import ZigAdvisor.Proofs.Zig.Parts

/-!
# Values of ZON source

What the tokens of a manifest say: a string, or members between braces, with names in front of them
or without, where a comma may stand behind the last member. A value spells the names and strings
that its tokens spell, in the same order (`spells_read?`).
-/

namespace ZigAdvisor.Zig

open Text

/-- A value. That all members have names or none, and that no name is given twice, is not asked
for. -/
inductive Zon
  | text (t : Text)
  | node (members : List (Option Text × Zon))

def keywords : List String :=
  ["addrspace", "align", "allowzero", "and", "anyframe", "anytype", "asm", "async", "await",
    "break", "callconv", "catch", "comptime", "const", "continue", "defer", "else", "enum",
    "errdefer", "error", "export", "extern", "fn", "for", "if", "inline", "linksection", "noalias",
    "noinline", "nosuspend", "opaque", "or", "orelse", "packed", "pub", "resume", "return",
    "struct", "suspend", "switch", "test", "threadlocal", "try", "union", "unreachable",
    "usingnamespace", "var", "volatile", "while"]

def isKeyword (t : Text) : Bool := keywords.any fun w => ofString w == t

namespace Token

def field? : Token → Option Text
  | word t => if isKeyword t || t.head?.any CodePoint.isAsciiDigit then none else some t
  | quoted .name t => if t.isEmpty then none else some t
  | _ => none

def spelled : Token → List Text
  | word t | quoted _ t => [t]
  | _ => []

def isZon (token : Token) : Bool :=
  match token with
  | quoted .string _ | dot | equals | comma | opening | closing => true
  | token => token.field?.isSome

end Token

def spelling (ts : List Token) : List Text := ts.flatMap Token.spelled

namespace Zon

/-! ## Reading -/

abbrev Reader (α : Type) := List Token → Option (α × List Token)

def name? : Reader (Option Text)
  | .dot :: token :: .equals :: ts => token.field?.map fun t => (some t, ts)
  | ts => some (none, ts)

def value? (members? : Reader (List (Option Text × Zon))) : Reader Zon
  | .quoted .string t :: ts => some (text t, ts)
  | .dot :: .opening :: ts => (members? ts).map fun r => (node r.1, r.2)
  | _ => none

def further? (members? : Reader (List (Option Text × Zon))) : Reader (List (Option Text × Zon))
  | .closing :: ts => some ([], ts)
  | .comma :: ts => members? ts
  | _ => none

/-- Members up to the closing brace, at most as many levels and members as the bound. -/
def members? : ℕ → Reader (List (Option Text × Zon))
  | 0, _ => none
  | n + 1, ts =>
    if ts.head? = some .closing then some ([], ts.tail)
    else
      (name? ts).bind fun (name, ts) =>
      (value? (members? n) ts).bind fun (value, ts) =>
      (further? (members? n) ts).map fun (members, ts) => ((name, value) :: members, ts)

def read? (ts : List Token) : Option Zon :=
  match value? (members? ts.length) ts with
  | some (value, []) => some value
  | _ => none

variable {n : ℕ} {ts us vs rest : List Token} {name : Option Text} {value : Zon}
  {members : List (Option Text × Zon)} {a b : List Text} {token : Token} {t : Text}

@[simp] theorem members?_closing : members? (n + 1) (.closing :: ts) = some ([], ts) := rfl

theorem members?_cons (hopen : ts.head? ≠ some .closing) (hname : name? ts = some (name, us))
    (hvalue : value? (members? n) us = some (value, vs))
    (hfurther : further? (members? n) vs = some (members, rest)) :
    members? (n + 1) ts = some ((name, value) :: members, rest) := by
  simp only [members?, if_neg hopen, hname, hvalue, hfurther, Option.bind_some, Option.map_some]

/-- A member with a name and a string. -/
theorem members?_string (hname : token.field? = some t) {s : Text}
    (h : members? n ts = some (members, rest)) :
    members? (n + 1) (.dot :: token :: .equals :: .quoted .string s :: .comma :: ts) =
      some ((some t, text s) :: members, rest) := by
  have hfield : name? (.dot :: token :: .equals :: .quoted .string s :: .comma :: ts) =
      some (some t, .quoted .string s :: .comma :: ts) := by rw [name?, hname]; rfl
  exact members?_cons (by simp) hfield rfl h

/-- A member without a name. -/
theorem members?_item {s : Text} (h : members? n ts = some (members, rest)) :
    members? (n + 1) (.quoted .string s :: .comma :: ts) =
      some ((none, text s) :: members, rest) :=
  members?_cons (by simp) rfl rfl h

/-- A member with a name and members of its own. -/
theorem members?_node (hname : token.field? = some t) {inner : List (Option Text × Zon)}
    (hinner : members? n us = some (inner, .comma :: ts))
    (h : members? n ts = some (members, rest)) :
    members? (n + 1) (.dot :: token :: .equals :: .dot :: .opening :: us) =
      some ((some t, node inner) :: members, rest) := by
  have hfield : name? (.dot :: token :: .equals :: .dot :: .opening :: us) =
      some (some t, .dot :: .opening :: us) := by rw [name?, hname]; rfl
  have hvalue : value? (members? n) (.dot :: .opening :: us) = some (node inner, .comma :: ts) := by
    rw [value?, hinner]; rfl
  exact members?_cons (by simp) hfield hvalue h

/-- Members between braces are a value, if no token is behind it. -/
theorem read?_of_members? (h : members? (ts.length + 2) ts = some (members, [])) :
    read? (.dot :: .opening :: ts) = some (node members) := by
  have hvalue : value? (members? (ts.length + 2)) (.dot :: .opening :: ts) =
      some (node members, []) := by rw [value?, h]; rfl
  rw [read?, List.length_cons, List.length_cons, hvalue]

/-! ## What a value spells -/

mutual

def texts : Zon → List Text
  | text t => [t]
  | node members => memberTexts members

def memberTexts : List (Option Text × Zon) → List Text
  | [] => []
  | (name, value) :: members => name.toList ++ (value.texts ++ memberTexts members)

end

/-- The tokens up to some others may stand in a value and spell the given texts. -/
def Spells (ts rest : List Token) (a : List Text) : Prop :=
  ∃ front, ts = front ++ rest ∧ (∀ token ∈ front, token.isZon = true) ∧ spelling front = a

theorem Spells.nil (ts : List Token) : Spells ts ts [] :=
  ⟨[], rfl, fun _ h => absurd h List.not_mem_nil, rfl⟩

theorem Spells.cons (htoken : token.isZon = true) (h : Spells ts rest a) :
    Spells (token :: ts) rest (token.spelled ++ a) := by
  obtain ⟨front, rfl, hfront, rfl⟩ := h
  exact ⟨token :: front, rfl, List.forall_mem_cons.mpr ⟨htoken, hfront⟩, rfl⟩

theorem Spells.append (hfront : Spells ts us a) (hback : Spells us rest b) :
    Spells ts rest (a ++ b) := by
  obtain ⟨front, rfl, hfront, rfl⟩ := hfront
  obtain ⟨back, rfl, hback, rfl⟩ := hback
  refine ⟨front ++ back, (List.append_assoc ..).symm, ?_, List.flatMap_append⟩
  exact List.forall_mem_append.mpr ⟨hfront, hback⟩

theorem spelled_of_field? (h : token.field? = some t) :
    token.isZon = true ∧ token.spelled = [t] := by
  have hsome : token.field?.isSome = true := by rw [h]; rfl
  cases token with
  | word s =>
    rw [Token.field?] at h
    split at h
    · cases h
    · exact ⟨hsome, congrArg (fun t => [t]) (Option.some.inj h)⟩
  | quoted q s =>
    cases q with
    | name =>
      rw [Token.field?] at h
      split at h
      · cases h
      · exact ⟨hsome, congrArg (fun t => [t]) (Option.some.inj h)⟩
    | string | character => cases h
  | _ => cases h

theorem spells_name? (h : name? ts = some (name, rest)) : Spells ts rest name.toList := by
  unfold name? at h
  split at h
  · next token ts =>
    obtain ⟨t, ht, hrest⟩ := Option.map_eq_some_iff.mp h
    cases hrest
    obtain ⟨hzon, hspelled⟩ := spelled_of_field? ht
    have hend : Spells (.equals :: rest) rest [] := (Spells.nil rest).cons rfl
    have hname := hend.cons hzon
    rw [hspelled] at hname
    exact hname.cons rfl
  · cases h
    exact .nil _

/-- Whether a reader of members reads what the tokens spell. -/
def IsSound (reader : Reader (List (Option Text × Zon))) : Prop :=
  ∀ ts rest members, reader ts = some (members, rest) → Spells ts rest (memberTexts members)

variable {reader : Reader (List (Option Text × Zon))}

theorem IsSound.spells_value? (hreader : IsSound reader)
    (h : value? reader ts = some (value, rest)) : Spells ts rest value.texts := by
  unfold value? at h
  split at h
  · cases h
    rw [texts]
    exact (Spells.nil rest).cons rfl
  · next ts =>
    obtain ⟨⟨members, others⟩, hmembers, hrest⟩ := Option.map_eq_some_iff.mp h
    cases hrest
    rw [texts]
    exact ((hreader _ _ _ hmembers).cons rfl).cons rfl
  · cases h

theorem IsSound.spells_further? (hreader : IsSound reader)
    (h : further? reader ts = some (members, rest)) : Spells ts rest (memberTexts members) := by
  unfold further? at h
  split at h
  · cases h
    rw [memberTexts]
    exact (Spells.nil rest).cons rfl
  · exact (hreader _ _ _ h).cons rfl
  · cases h

theorem isSound_members? (n : ℕ) : IsSound (members? n) := by
  induction n with
  | zero =>
    intro ts rest members h
    cases h
  | succ n ih =>
    intro ts rest members h
    rw [members?] at h
    split at h
    · next hclosing =>
      obtain ⟨ts, rfl⟩ := List.head?_eq_some_iff.mp hclosing
      cases h
      rw [memberTexts]
      exact (Spells.nil _).cons rfl
    · obtain ⟨⟨name, us⟩, hname, h⟩ := Option.bind_eq_some_iff.mp h
      obtain ⟨⟨value, vs⟩, hvalue, h⟩ := Option.bind_eq_some_iff.mp h
      obtain ⟨⟨more, others⟩, hmore, hrest⟩ := Option.map_eq_some_iff.mp h
      cases hrest
      rw [memberTexts]
      exact (spells_name? hname).append
        ((ih.spells_value? hvalue).append (ih.spells_further? hmore))

/-- A value that is read spells what its tokens spell. -/
theorem spells_read? (h : read? ts = some value) :
    (∀ token ∈ ts, token.isZon = true) ∧ spelling ts = value.texts := by
  unfold read? at h
  split at h
  · next hvalue =>
    cases h
    obtain ⟨front, rfl, hzon, hspelling⟩ := (isSound_members? _).spells_value? hvalue
    rw [List.append_nil]
    exact ⟨hzon, hspelling⟩
  · cases h

end Zon

/-! ## Values in parts -/

variable {ts us : List Token} {parts : List Part} {q : Quotation} {s rest : Text} {a : List Text}

theorem spelling_append (ts us : List Token) : spelling (ts ++ us) = spelling ts ++ spelling us :=
  List.flatMap_append

theorem verbatim_of_spelling_inside (hq : q.mark = .quote)
    (hzon : ∀ token ∈ Lexer.emitted (.inside q []) (s ++ .quote :: rest), token.isZon = true)
    (h : spelling (Lexer.emitted (.inside q []) (s ++ .quote :: rest)) = s :: a) : Verbatim s := by
  apply Lexer.verbatim_of_head? hq
  have hreads : Lexer.Reads (.inside q []) q [] := Or.inl rfl
  cases hread : Lexer.emitted (.inside q []) (s ++ .quote :: rest) with
  | nil =>
    rw [hread] at h
    cases h
  | cons token us =>
    rw [hread] at h hzon
    rcases hreads.eq_broken_or (congrArg List.head? hread) with rfl | ⟨w, rfl⟩
    · exact absurd (hzon _ List.mem_cons_self) (by decide)
    · rw [(List.cons.inj h).1]
      rfl

/-- If the tokens of a text may stand in a value and spell what its parts mean, all that is put
between marks is verbatim. -/
theorem verbatim_of_spelling
    (hzon : ∀ token ∈ Lexer.emitted .between (write parts ++ rest), token.isZon = true)
    (h : spelling (Lexer.emitted .between (write parts ++ rest)) =
      spelling (parts.flatMap Part.tokens) ++ a) : ∀ s ∈ values parts, Verbatim s := by
  induction parts with
  | nil => exact fun s hs => absurd hs List.not_mem_nil
  | cons part parts ih =>
    rw [write_cons, List.append_assoc] at h hzon
    rw [List.flatMap_cons, spelling_append, List.append_assoc] at h
    have hpart : ∀ s ∈ part.values, Verbatim s := by
      cases part with
      | code t isCode => exact fun s hs => absurd hs List.not_mem_nil
      | literal s =>
        rw [Part.text, List.cons_append, List.append_assoc] at h hzon
        exact List.forall_mem_singleton.mpr (verbatim_of_spelling_inside rfl hzon h)
      | name s =>
        rw [Part.text, List.cons_append, List.cons_append, List.append_assoc] at h hzon
        exact List.forall_mem_singleton.mpr (verbatim_of_spelling_inside rfl hzon h)
    rw [emitted_part hpart, List.forall_mem_append] at hzon
    rw [emitted_part hpart, spelling_append, List.append_cancel_left_eq] at h
    rw [values_cons, List.forall_mem_append]
    exact ⟨hpart, ih hzon.2 h⟩

end ZigAdvisor.Zig
