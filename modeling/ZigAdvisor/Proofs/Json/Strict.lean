import ZigAdvisor.Json.Reader
import ZigAdvisor.Proofs.Json.Escapes
import ZigAdvisor.Proofs.Json.Readable
import ZigAdvisor.Proofs.Number.Literal

/-!
# Strict JSON

The grammar of JSON texts has no words for the infinities and for what is no number, while the
writer has. So a value is written as a strict text exactly if its numbers are finite: the
words of the others begin with a letter that no strict text has outside its strings.
-/

namespace ZigAdvisor.Json

open Text (concat join IsNumber AreDigits IsUnsigned)

variable {t u : Text} {j : Json}

/-! ## The grammar -/

def shortLetters : List CodePoint := [.quote, .backslash, '/', 'b', 'f', 'n', 'r', 't']

inductive IsChar : Text → Prop
  | plain {c : CodePoint} (hc : 0x20 ≤ c.val) (hquote : c ≠ .quote)
      (hbackslash : c ≠ .backslash) : IsChar [c]
  | short {letter : CodePoint} (h : letter ∈ shortLetters) : IsChar [.backslash, letter]
  | unit {a b c d : CodePoint} (h : ∀ digit ∈ [a, b, c, d], digit.hexValue?.isSome) :
      IsChar [.backslash, 'u', a, b, c, d]

def AreChars (t : Text) : Prop := ∃ chars, (∀ c ∈ chars, IsChar c) ∧ t = concat chars

def IsString (t : Text) : Prop := ∃ chars, AreChars chars ∧ t = .quote :: (chars ++ [.quote])

def IsBlank (t : Text) : Prop := ∀ c ∈ t, isSpace c = true

instance (t : Text) : Decidable (IsBlank t) := inferInstanceAs (Decidable (∀ c ∈ t, _))

def IsKey (t : Text) : Prop :=
  ∃ before key after, IsBlank before ∧ IsString key ∧ IsBlank after ∧
    t = before ++ (key ++ after)

inductive IsStrict : Text → Prop
  | word {s : String} (hs : s ∈ ["null", "true", "false"]) : IsStrict s
  | number {t : Text} (h : IsNumber t) : IsStrict t
  | string {t : Text} (h : IsString t) : IsStrict t
  | noItems {blank : Text} (h : IsBlank blank) : IsStrict (concat ["[", blank, "]"])
  | arr {items : List Text} (h : ∀ t ∈ items, IsStrict t) :
      IsStrict (concat ["[", join "," items, "]"])
  | noMembers {blank : Text} (h : IsBlank blank) : IsStrict (concat ["\x7b", blank, "\x7d"])
  | obj {members : List (Text × Text)} (hkeys : ∀ m ∈ members, IsKey m.1)
      (h : ∀ m ∈ members, IsStrict m.2) :
      IsStrict (concat ["\x7b", join "," (members.map fun m => concat [m.1, ":", m.2]), "\x7d"])
  | blank {t before after : Text} (hbefore : IsBlank before) (h : IsStrict t)
      (hafter : IsBlank after) : IsStrict (before ++ (t ++ after))

/-! ## Strings -/

theorem areChars_nil : AreChars [] := ⟨[], by simp, rfl⟩

theorem IsChar.areChars (h : IsChar t) : AreChars t := ⟨[t], by simpa using h, by simp⟩

theorem AreChars.append (ht : AreChars t) (hu : AreChars u) : AreChars (t ++ u) := by
  obtain ⟨chars, hchars, rfl⟩ := ht
  obtain ⟨more, hmore, rfl⟩ := hu
  exact ⟨chars ++ more, List.forall_mem_append.mpr ⟨hchars, hmore⟩, List.flatten_append.symm⟩

theorem areChars_flatMap {f : CodePoint → Text} (h : ∀ c, AreChars (f c)) (t : Text) :
    AreChars (t.flatMap f) := by
  induction t with
  | nil => exact areChars_nil
  | cons c t ih => exact (h c).append ih

theorem isChar_unitEscape (n : ℕ) : IsChar (unitEscape n) := by
  have hdigit (k : ℕ) : (Text.hexDigit (k % 16)).hexValue?.isSome := by
    rw [hexValue?_hexDigit (Nat.mod_lt k (by decide))]
    rfl
  rw [unitEscape_eq]
  exact .unit (by simp [hdigit])

theorem mem_shortLetters {c letter : CodePoint} (h : shortEscape? c = some letter) :
    letter ∈ shortLetters := by
  have hall : ∀ e ∈ shortEscapes, e.2 ∈ shortLetters := by decide
  exact hall _ (mem_shortEscapes h)

theorem areChars_writePoint (c : CodePoint) : AreChars (writePoint c) := by
  unfold writePoint
  split
  · next letter hletter => exact (IsChar.short (mem_shortLetters hletter)).areChars
  · next hnone =>
    split_ifs with hplain
    · refine (IsChar.plain hplain.1 ?_ ?_).areChars
      · rintro rfl
        exact absurd hnone (by decide)
      · rintro rfl
        exact absurd hnone (by decide)
    · exact (isChar_unitEscape _).areChars
    · exact (isChar_unitEscape _).areChars.append (isChar_unitEscape _).areChars

theorem isString_writeString (t : Text) : IsString (writeString t) :=
  ⟨_, areChars_flatMap areChars_writePoint t, rfl⟩

/-! ## Values on one line -/

theorem join_cons {separator : Text} {ts : List Text} :
    join separator (t :: ts) = t ++ ts.flatMap fun u => separator ++ u := by
  induction ts generalizing t with
  | nil => simp [join]
  | cons u ts ih => rw [Text.join_cons_cons, ih, List.flatMap_cons, List.append_assoc]

theorem line_arr (items : List Json) :
    (arr items).line = concat ["[", join ", " (items.map line), "]"] := by
  cases items with
  | nil => rfl
  | cons item items =>
    rw [line, write, writeItems_eq, List.map_cons, join_cons, List.flatMap_map]
    simp [Layout.deeper, Layout.lead, Layout.separator, line]

theorem line_obj (members : List (Text × Json)) :
    (obj members).line =
      concat ["\x7b", join ", " (members.map (writeMember .oneLine)), "\x7d"] := by
  cases members with
  | nil => rfl
  | cons m members =>
    rw [line, write, writeMembers_eq, List.map_cons, join_cons, List.flatMap_map]
    simp [Layout.deeper, Layout.lead, Layout.separator, writeMember]

/-- A separator is a comma, and a blank in front of what follows. -/
theorem join_separator (t : Text) (ts : List Text) :
    join ", " (t :: ts) = join "," (t :: ts.map fun u => Text.ofString " " ++ u) := by
  rw [join_cons, join_cons, List.flatMap_map]
  rfl

theorem isBlank_nil : IsBlank [] := by simp [IsBlank]

theorem isBlank_space : IsBlank " " := by decide

theorem IsString.isKey (h : IsString t) : IsKey t :=
  ⟨[], t, [], isBlank_nil, h, isBlank_nil, by simp⟩

theorem IsString.isKey_space (h : IsString t) : IsKey (Text.ofString " " ++ t) :=
  ⟨_, t, [], isBlank_space, h, isBlank_nil, by simp⟩

theorem IsStrict.space (h : IsStrict t) : IsStrict (Text.ofString " " ++ t) := by
  have hblank := IsStrict.blank isBlank_space h isBlank_nil
  rwa [List.append_nil] at hblank

theorem isStrict_items {ts : List Text} (h : ∀ t ∈ ts, IsStrict t) :
    IsStrict (concat ["[", join ", " ts, "]"]) := by
  cases ts with
  | nil => exact .noItems isBlank_nil
  | cons t ts =>
    rw [List.forall_mem_cons] at h
    rw [join_separator]
    refine .arr (List.forall_mem_cons.mpr ⟨h.1, ?_⟩)
    rw [List.forall_mem_map]
    exact fun u hu => (h.2 u hu).space

theorem isStrict_members {members : List (Text × Json)} (h : ∀ m ∈ members, IsStrict m.2.line) :
    IsStrict (concat ["\x7b", join ", " (members.map (writeMember .oneLine)), "\x7d"]) := by
  cases members with
  | nil => exact .noMembers isBlank_nil
  | cons m members =>
    have hparts : join ", " ((m :: members).map (writeMember .oneLine)) = join "," (
        ((writeString m.1, Text.ofString " " ++ m.2.line) :: members.map fun m =>
          (Text.ofString " " ++ writeString m.1, Text.ofString " " ++ m.2.line)).map
        fun m : Text × Text => concat [m.1, ":", m.2]) := by
      have hcolon : Text.ofString ": " = Text.ofString ":" ++ Text.ofString " " := rfl
      rw [List.map_cons, join_separator, List.map_cons, List.map_map, List.map_map]
      simp [writeMember, line, Function.comp_def, hcolon]
    rw [List.forall_mem_cons] at h
    rw [hparts]
    refine .obj (List.forall_mem_cons.mpr ⟨(isString_writeString m.1).isKey, ?_⟩)
      (List.forall_mem_cons.mpr ⟨h.1.space, ?_⟩)
    · rw [List.forall_mem_map]
      exact fun m _ => (isString_writeString m.1).isKey_space
    · rw [List.forall_mem_map]
      exact fun m hm => (h.2 m hm).space

/-- A value whose numbers are finite is written as a strict text. -/
theorem isStrict_line (h : EveryDouble Double.IsFinite j) : IsStrict j.line := by
  induction h with
  | null =>
    rw [line, write]
    exact .word (by simp)
  | bool b =>
    rw [line, write]
    cases b <;> exact .word (by simp)
  | int i =>
    rw [line, write]
    exact .number (Text.isNumber_ofInt i)
  | float hd =>
    rw [line, write]
    exact .number (Double.isNumber_writeDouble hd)
  | str t =>
    rw [line, write]
    exact .string (isString_writeString t)
  | arr _ ih =>
    rw [line_arr]
    refine isStrict_items ?_
    rw [List.forall_mem_map]
    exact ih
  | obj _ ih =>
    rw [line_obj]
    exact isStrict_members ih

/-! ## Outside the strings -/

inductive Place
  | outside
  | inside
  | escaped
deriving DecidableEq

/-- The place behind a code point. No word for a number that is not finite begins outside. -/
def Place.next : Place → CodePoint → Option Place
  | outside, c =>
    if c = 'N' ∨ c = 'I' then none else if c = .quote then some inside else some outside
  | inside, c => if c = .quote then outside else if c = .backslash then escaped else inside
  | escaped, _ => some inside

def scan (p : Place) (t : Text) : Option Place := t.foldlM Place.next p

def Passes (t : Text) : Prop := scan .outside t = some .outside

instance (t : Text) : Decidable (Passes t) := inferInstanceAs (Decidable (_ = _))

theorem scan_append (p : Place) (t u : Text) :
    scan p (t ++ u) = (scan p t).bind fun q => scan q u :=
  List.foldlM_append

theorem Passes.append (ht : Passes t) (hu : Passes u) : Passes (t ++ u) := by
  rw [Passes, scan_append, ht, Option.bind_some]
  exact hu

theorem passes_nil : Passes [] := rfl

theorem Passes.enclosed {before after : String} (h : Passes t) (hbefore : Passes before)
    (hafter : Passes after) : Passes (concat [before, t, after]) :=
  hbefore.append (h.append (hafter.append passes_nil))

theorem passes_of_forall (h : ∀ c ∈ t, c ≠ .quote ∧ c ≠ 'N' ∧ c ≠ 'I') : Passes t := by
  induction t with
  | nil => rfl
  | cons c t ih =>
    rw [List.forall_mem_cons] at h
    obtain ⟨⟨hquote, hn, hi⟩, ht⟩ := h
    have hnext : Place.next .outside c = some .outside := by simp [Place.next, hquote, hn, hi]
    rw [Passes, scan, List.foldlM_cons, hnext]
    exact ih ht

theorem passes_join {separator : Text} {ts : List Text} (hseparator : Passes separator)
    (h : ∀ t ∈ ts, Passes t) : Passes (join separator ts) := by
  induction ts with
  | nil => rfl
  | cons t ts ih =>
    rw [List.forall_mem_cons] at h
    cases ts with
    | nil => simpa [join] using h.1
    | cons u ts =>
      rw [Text.join_cons_cons]
      exact h.1.append (hseparator.append (ih h.2))

theorem scan_inside_of_forall (h : ∀ c ∈ t, c ≠ .quote ∧ c ≠ .backslash) :
    scan .inside t = some .inside := by
  induction t with
  | nil => rfl
  | cons c t ih =>
    rw [List.forall_mem_cons] at h
    have hnext : Place.next .inside c = some .inside := by simp [Place.next, h.1.1, h.1.2]
    rw [scan, List.foldlM_cons, hnext]
    exact ih h.2

theorem IsChar.scan_inside (h : IsChar t) : scan .inside t = some .inside := by
  cases h with
  | plain hc hquote hbackslash => exact scan_inside_of_forall (by simp [hquote, hbackslash])
  | short h => rfl
  | @unit a b c d h =>
    have hdigits : ∀ x ∈ [a, b, c, d], x ≠ .quote ∧ x ≠ .backslash := by
      intro x hx
      have hvalue := h x hx
      refine ⟨?_, ?_⟩
      all_goals
        rintro rfl
        exact absurd hvalue (by decide)
    have hmark : scan .inside [.backslash, 'u'] = some .inside := by decide
    change scan .inside ([CodePoint.backslash, ('u' : CodePoint)] ++ [a, b, c, d]) = _
    rw [scan_append, hmark, Option.bind_some, scan_inside_of_forall hdigits]

theorem AreChars.scan_inside (h : AreChars t) : scan .inside t = some .inside := by
  obtain ⟨chars, hchars, rfl⟩ := h
  induction chars with
  | nil => rfl
  | cons t chars ih =>
    rw [List.forall_mem_cons] at hchars
    rw [Text.concat_cons, scan_append, hchars.1.scan_inside, Option.bind_some, ih hchars.2]

theorem IsString.passes (h : IsString t) : Passes t := by
  obtain ⟨chars, hchars, rfl⟩ := h
  have hopen : scan .outside [.quote] = some .inside := by decide
  have hclose : scan .inside [.quote] = some .outside := by decide
  rw [Passes, ← List.singleton_append, scan_append, hopen, Option.bind_some, scan_append,
    hchars.scan_inside, Option.bind_some, hclose]

theorem passes_of_isNumber (h : IsNumber t) : Passes t := by
  refine passes_of_forall (h.forall_mem (fun c hc => ?_) (by decide))
  refine ⟨?_, ?_, ?_⟩
  all_goals
    rintro rfl
    exact absurd hc (by decide)

theorem IsBlank.passes (h : IsBlank t) : Passes t := by
  refine passes_of_forall fun c hc => ?_
  have hspace := h c hc
  refine ⟨?_, ?_, ?_⟩
  all_goals
    rintro rfl
    exact absurd hspace (by decide)

theorem IsKey.passes (h : IsKey t) : Passes t := by
  obtain ⟨before, key, after, hbefore, hkey, hafter, rfl⟩ := h
  exact hbefore.passes.append (hkey.passes.append hafter.passes)

/-- A strict text has none of the words outside its strings. -/
theorem IsStrict.passes (h : IsStrict t) : Passes t := by
  have hcomma : Passes "," := by decide
  have hcolon : Passes ":" := by decide
  have harr {t : Text} (ht : Passes t) : Passes (concat ["[", t, "]"]) :=
    ht.enclosed (by decide) (by decide)
  have hobj {t : Text} (ht : Passes t) : Passes (concat ["\x7b", t, "\x7d"]) :=
    ht.enclosed (by decide) (by decide)
  induction h with
  | @word s hs =>
    have hwords : ∀ s ∈ ["null", "true", "false"], Passes (Text.ofString s) := by decide
    exact hwords s hs
  | number h => exact passes_of_isNumber h
  | string h => exact h.passes
  | noItems h => exact harr h.passes
  | arr _ ih => exact harr (passes_join hcomma ih)
  | noMembers h => exact hobj h.passes
  | obj hkeys _ ih =>
    refine hobj (passes_join hcomma ?_)
    rw [List.forall_mem_map]
    intro m hm
    exact (hkeys m hm).passes.append (hcolon.append ((ih m hm).append passes_nil))
  | blank hbefore _ hafter ih => exact hbefore.passes.append (ih.append hafter.passes)

/-! ## What is written of numbers that are not finite -/

/-- Whether a text tells something where it has none of the words outside its strings. Where it has
one, the scan fails and nothing is asked. -/
def Tells (t : Text) (A : Prop) : Prop :=
  ∀ p, scan .outside t = some p → p = .outside ∧ A

variable {A B : Prop}

theorem Passes.tells (h : Passes t) : Tells t True := by
  intro p hp
  rw [h] at hp
  exact ⟨(Option.some.inj hp).symm, trivial⟩

theorem Tells.append (ht : Tells t A) (hu : Tells u B) : Tells (t ++ u) (A ∧ B) := by
  intro p hp
  rw [scan_append] at hp
  obtain ⟨q, hq, hrest⟩ := Option.bind_eq_some_iff.mp hp
  obtain ⟨rfl, ha⟩ := ht q hq
  obtain ⟨rfl, hb⟩ := hu p hrest
  exact ⟨rfl, ha, hb⟩

theorem Tells.imp (h : Tells t A) (hAB : A → B) : Tells t B :=
  fun p hp => ⟨(h p hp).1, hAB (h p hp).2⟩

theorem tells_join {α : Type} {separator : Text} {f : α → Text} {Q : α → Prop} {items : List α}
    (hseparator : Passes separator) (h : ∀ a ∈ items, Tells (f a) (Q a)) :
    Tells (join separator (items.map f)) (∀ a ∈ items, Q a) := by
  induction items with
  | nil => exact passes_nil.tells.imp fun _ => by simp
  | cons a items ih =>
    rw [List.forall_mem_cons] at h
    cases items with
    | nil =>
      rw [List.map_singleton]
      exact (by simpa [join] using h.1)
    | cons b items =>
      rw [List.map_cons, List.map_cons, Text.join_cons_cons]
      refine (h.1.append (hseparator.tells.append (ih h.2))).imp ?_
      rintro ⟨ha, -, hitems⟩
      exact List.forall_mem_cons.mpr ⟨ha, hitems⟩

theorem Tells.enclosed {before after : String} (h : Tells t A) (hbefore : Passes before)
    (hafter : Passes after) : Tells (concat [before, t, after]) A :=
  (hbefore.tells.append (h.append (hafter.append passes_nil).tells)).imp fun h => h.2.1

theorem tells_of_scan (h : scan .outside t = none) : Tells t A := by
  intro p hp
  rw [h] at hp
  cases hp

theorem tells_writeDouble (d : Double) : Tells (writeDouble d) d.IsFinite := by
  cases d with
  | nan => exact tells_of_scan (by decide)
  | infinity negative => exact tells_of_scan (by cases negative <;> decide)
  | finite negative mantissa exponent =>
    have hfinite : (Double.finite negative mantissa exponent).IsFinite := trivial
    exact (passes_of_isNumber (Double.isNumber_writeDouble hfinite)).tells.imp fun _ => hfinite

mutual

theorem tells_line : ∀ j : Json, Tells j.line (EveryDouble Double.IsFinite j)
  | null => (isStrict_line .null).passes.tells.imp fun _ => .null
  | bool b => (isStrict_line (.bool b)).passes.tells.imp fun _ => .bool b
  | int i => (isStrict_line (.int i)).passes.tells.imp fun _ => .int i
  | float d => (tells_writeDouble d).imp fun h => .float h
  | str t => (isStrict_line (.str t)).passes.tells.imp fun _ => .str t
  | arr items => by
    rw [line_arr]
    exact ((tells_join (by decide) (tells_items items)).enclosed (by decide) (by decide)).imp
      fun h => .arr h
  | obj members => by
    rw [line_obj]
    exact ((tells_join (by decide) (tells_members members)).enclosed (by decide) (by decide)).imp
      fun h => .obj h

theorem tells_items : ∀ items : List Json, ∀ item ∈ items,
    Tells item.line (EveryDouble Double.IsFinite item)
  | [] => by simp
  | item :: items => List.forall_mem_cons.mpr ⟨tells_line item, tells_items items⟩

theorem tells_members : ∀ members : List (Text × Json), ∀ m ∈ members,
    Tells (writeMember .oneLine m) (EveryDouble Double.IsFinite m.2)
  | [] => by simp
  | (key, value) :: members => by
    have hkey := (isString_writeString key).passes.tells
    have hcolon : Passes ": " := by decide
    have hmember := hkey.append (hcolon.tells.append (tells_line value))
    exact List.forall_mem_cons.mpr ⟨hmember.imp fun h => h.2.2, tells_members members⟩

end

/-- A value is written as a strict text exactly if its numbers are finite. -/
theorem isStrict_line_iff : IsStrict j.line ↔ EveryDouble Double.IsFinite j :=
  ⟨fun h => (tells_line j .outside h.passes).2, isStrict_line⟩

end ZigAdvisor.Json
