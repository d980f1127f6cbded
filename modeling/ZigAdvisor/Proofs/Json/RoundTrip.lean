import ZigAdvisor.Proofs.Json.Escapes
import ZigAdvisor.Proofs.Json.Numerals
import ZigAdvisor.Proofs.Json.Printable

/-!
# Values that are read back

Whatever the layout, a written value is read back as it was, if it is within the limits of the
reader and its numbers that are not whole survive. The blanks of a layout are passed over, and
every item ends where the separator or the closing bracket begins.
-/

namespace ZigAdvisor.Json

variable {α : Type} {depth : ℕ} {j : Json} {layout : Layout} {rest t : Text}

/-- Whether a number is read back wherever it stands. -/
def Survives (d : Double) : Prop :=
  ∀ rest, EndsNumber rest → readScalar (writeDouble d ++ rest) = .ok (float d, rest)

/-! ## Blanks -/

theorem skipSpace_append (h : ∀ c ∈ t, isSpace c = true)
    (hrest : ∀ c ∈ rest.head?, isSpace c = false) : skipSpace (t ++ rest) = rest := by
  rw [skipSpace, List.dropWhile_append_of_pos h]
  cases rest with
  | nil => rfl
  | cons c rest => rw [List.dropWhile_cons_of_neg (by simp [hrest c rfl])]

theorem skipSpace_cons {c : CodePoint} (hc : isSpace c = false) :
    skipSpace (c :: rest) = c :: rest :=
  List.dropWhile_cons_of_neg (by simp [hc])

theorem isSpace_of_mem_lead : ∀ c ∈ layout.lead, isSpace c = true := by
  intro c hc
  cases layout with
  | oneLine => cases hc
  | indented depth =>
    rcases List.mem_cons.mp hc with rfl | hc
    · decide
    · rw [List.eq_of_mem_replicate hc]
      decide

/-- A separator is a comma with blanks behind it. -/
theorem exists_separator (layout : Layout) : ∃ blanks,
    layout.separator = (',' : CodePoint) :: blanks ∧ ∀ c ∈ blanks, isSpace c = true := by
  cases layout with
  | oneLine => exact ⟨[(' ' : CodePoint)], rfl, by decide⟩
  | indented depth =>
    exact ⟨(Layout.indented depth).lead, rfl, isSpace_of_mem_lead⟩

theorem endsNumber_of_isSpace {c : CodePoint} (h : isSpace c = true) : EndsNumber (c :: rest) := by
  have hval : c.val = 0x20 ∨ c.val = 0x9 ∨ c.val = 0xA ∨ c.val = 0xD := by
    simpa [isSpace, or_assoc] using h
  refine endsNumber_cons ?_ ?_ ?_ ?_
  · rw [Bool.eq_false_iff, ne_eq, CodePoint.isAsciiDigit_iff]
    omega
  all_goals
    rintro rfl
    exact absurd h (by decide)

theorem endsNumber_lead (layout : Layout) (hrest : EndsNumber rest) :
    EndsNumber (layout.lead ++ rest) := by
  cases hlead : layout.lead with
  | nil => exact hrest
  | cons c lead =>
    have hc : c ∈ layout.lead := hlead ▸ List.mem_cons_self
    exact endsNumber_of_isSpace (isSpace_of_mem_lead c hc)

/-! ## Items -/

def Opens (close : CodePoint) (t : Text) : Prop :=
  ∃ c ∈ t.head?, isSpace c = false ∧ c ≠ close

variable {readItem : Text → Reading α} {close : CodePoint} {written : α → Text} {first : α}
  {items : List α}

theorem Opens.skipSpace {blanks : Text} (h : Opens close t)
    (hblanks : ∀ c ∈ blanks, isSpace c = true) (rest : Text) :
    skipSpace (blanks ++ (t ++ rest)) = t ++ rest := by
  obtain ⟨c, hc, hspace, -⟩ := h
  obtain ⟨t, rfl⟩ := List.head?_eq_some_iff.mp hc
  exact skipSpace_append hblanks (by simpa using hspace)

def behind (layout : Layout) (written : α → Text) (close : CodePoint) (items : List α)
    (rest : Text) : Text :=
  (items.flatMap fun a => layout.deeper.separator ++ written a) ++ (layout.lead ++ close :: rest)

theorem behind_cons (layout : Layout) (written : α → Text) (close : CodePoint) (a : α)
    (items : List α) (rest : Text) : ∃ blanks, (∀ c ∈ blanks, isSpace c = true) ∧
      behind layout written close (a :: items) rest =
        (',' : CodePoint) :: (blanks ++ (written a ++ behind layout written close items rest)) := by
  obtain ⟨blanks, hseparator, hblanks⟩ := exists_separator layout.deeper
  refine ⟨blanks, hblanks, ?_⟩
  simp only [behind, List.flatMap_cons, hseparator, List.cons_append, List.append_assoc]

/-- A reader that reads an item back wherever a number may end. -/
def ReadsBack (readItem : Text → Reading α) (written : α → Text) (a : α) : Prop :=
  ∀ rest, EndsNumber rest → readItem (written a ++ rest) = .ok (a, rest)

theorem readItems_of_item {c : CodePoint} {u v : Text} {a : α} (hitem : readItem t = .ok (a, u))
    (hspace : skipSpace u = c :: v) (most : ℕ) : readItems readItem close (most + 1) t =
      if c = close then .ok ([a], v)
      else if c = ',' then
        (readItems readItem close most (skipSpace v)).map fun (items, rest) => (a :: items, rest)
      else .error (.malformed .noComma (c :: v)) := by
  rw [readItems, hitem]
  simp only [hspace]

/-- Items with separators between them are read back up to the closing bracket. -/
theorem readItems_written (layout : Layout) (hspace : isSpace close = false) (hcomma : ',' ≠ close)
    (hends : EndsNumber (close :: rest)) {most : ℕ} (hmost : items.length < most)
    (hread : ∀ a ∈ first :: items, ReadsBack readItem written a)
    (hopens : ∀ a ∈ items, Opens close (written a)) :
    readItems readItem close most (written first ++ behind layout written close items rest) =
      .ok (first :: items, rest) := by
  induction items generalizing first most with
  | nil =>
    -- Behind the last item stand the blanks of the layout and the closing bracket.
    obtain ⟨most, rfl⟩ := Nat.exists_eq_succ_of_ne_zero (Nat.ne_of_gt hmost)
    have hitem := hread first List.mem_cons_self _ (endsNumber_lead layout hends)
    have hlead : skipSpace (layout.lead ++ close :: rest) = close :: rest :=
      skipSpace_append isSpace_of_mem_lead (by simpa using hspace)
    exact (readItems_of_item hitem hlead most).trans (if_pos rfl)
  | cons a items ih =>
    obtain ⟨most, rfl⟩ := Nat.exists_eq_succ_of_ne_zero (Nat.ne_of_gt (Nat.zero_lt_of_lt hmost))
    obtain ⟨hfirst, hothers⟩ := List.forall_mem_cons.mp hread
    obtain ⟨ha, hitems⟩ := List.forall_mem_cons.mp hopens
    obtain ⟨blanks, hblanks, hbehind⟩ := behind_cons layout written close a items rest
    have hitem := hfirst (behind layout written close (a :: items) rest) (by
      rw [hbehind]
      exact endsNumber_cons (by decide) (by decide) (by decide) (by decide))
    have hpassed : skipSpace (blanks ++ (written a ++ behind layout written close items rest)) =
        written a ++ behind layout written close items rest := ha.skipSpace hblanks _
    have hrest := ih (Nat.lt_of_succ_lt_succ hmost) hothers hitems
    have hhead : skipSpace (behind layout written close (a :: items) rest) =
        (',' : CodePoint) :: (blanks ++ (written a ++ behind layout written close items rest)) := by
      rw [hbehind]
      exact skipSpace_cons (by decide)
    rw [readItems_of_item hitem hhead, if_neg hcomma, if_pos rfl, hpassed, hrest]
    rfl

theorem length_le_behind (layout : Layout) (written : α → Text) (close : CodePoint)
    (items : List α) (rest : Text) :
    items.length ≤ (behind layout written close items rest).length := by
  induction items with
  | nil => exact Nat.zero_le _
  | cons a items ih =>
    obtain ⟨blanks, -, hbehind⟩ := behind_cons layout written close a items rest
    rw [hbehind, List.length_cons, List.length_cons, List.length_append, List.length_append]
    omega

/-- What stands between two brackets is read back. -/
theorem readEnclosed_written (layout : Layout) (hspace : isSpace close = false)
    (hcomma : ',' ≠ close) (hends : EndsNumber (close :: rest))
    (hread : ∀ a ∈ first :: items, ReadsBack readItem written a)
    (hopens : ∀ a ∈ first :: items, Opens close (written a)) :
    readEnclosed readItem close
        (layout.deeper.lead ++ (written first ++ behind layout written close items rest)) =
      .ok (first :: items, rest) := by
  obtain ⟨hfirst, hitems⟩ := List.forall_mem_cons.mp hopens
  have hpassed := hfirst.skipSpace (isSpace_of_mem_lead : ∀ c ∈ layout.deeper.lead, _)
    (behind layout written close items rest)
  obtain ⟨c, hc, -, hclose⟩ := hfirst
  obtain ⟨t, ht⟩ := List.head?_eq_some_iff.mp hc
  have hlength := length_le_behind layout written close items rest
  have hmost : items.length <
      (written first ++ behind layout written close items rest).length := by
    rw [ht, List.cons_append, List.length_cons, List.length_append]
    omega
  have hwritten := readItems_written layout hspace hcomma hends hmost hread hitems
  rw [readEnclosed, hpassed]
  rw [ht, List.cons_append] at hwritten ⊢
  exact (if_neg hclose).trans hwritten

/-! ## Values -/

theorem write_arr_append (item : Json) (items : List Json) (rest : Text) :
    write layout (arr (item :: items)) ++ rest = ('[' : CodePoint) :: (layout.deeper.lead ++
      (write layout.deeper item ++ behind layout (write layout.deeper) ']' items rest)) := by
  rw [write, writeItems_eq, behind]
  simp only [Text.concat_cons, Text.concat_nil, List.append_nil, List.append_assoc]
  rfl

theorem write_obj_append (m : Text × Json) (members : List (Text × Json)) (rest : Text) :
    write layout (obj (m :: members)) ++ rest = ('\x7b' : CodePoint) :: (layout.deeper.lead ++
      (writeMember layout.deeper m ++
        behind layout (writeMember layout.deeper) '\x7d' members rest)) := by
  obtain ⟨key, value⟩ := m
  rw [write, writeMembers_eq, behind, writeMember]
  simp only [Text.concat_cons, Text.concat_nil, List.append_nil, List.append_assoc]
  rfl

def StartsScalar (t : Text) : Prop :=
  ∃ c ∈ t.head?, isSpace c = false ∧ c ≠ ']' ∧ c ≠ '[' ∧ c ≠ '\x7b'

theorem StartsScalar.opens (h : StartsScalar t) : Opens ']' t := by
  obtain ⟨c, hc, hspace, hclose, -⟩ := h
  exact ⟨c, hc, hspace, hclose⟩

theorem StartsScalar.readValue_eq (h : StartsScalar t) (depth : ℕ) (rest : Text) :
    readValue depth (t ++ rest) = readScalar (t ++ rest) := by
  obtain ⟨c, hc, -, -, harray, hobject⟩ := h
  obtain ⟨t, rfl⟩ := List.head?_eq_some_iff.mp hc
  exact readValue_of_head harray hobject depth _

theorem startsScalar_of_isAsciiDigit {c : CodePoint} (hc : c.isAsciiDigit = true) :
    StartsScalar (c :: t) := by
  have hval := CodePoint.isAsciiDigit_iff.mp hc
  refine ⟨c, rfl, ?_, ?_, ?_, ?_⟩
  · simp only [isSpace, Bool.or_eq_false_iff, beq_eq_false_iff_ne]
    omega
  all_goals
    rintro rfl
    exact absurd hc (by decide)

theorem startsScalar_of_isUnsigned (h : Text.IsUnsigned t) : StartsScalar t := by
  obtain ⟨hwhole, -, -⟩ := h
  obtain ⟨c, digits, rfl⟩ := List.exists_cons_of_ne_nil hwhole.ne_nil
  exact startsScalar_of_isAsciiDigit (hwhole.digit c List.mem_cons_self)

theorem startsScalar_of_isNumber (h : Text.IsNumber t) : StartsScalar t := by
  cases h with
  | plain h => exact startsScalar_of_isUnsigned h
  | negative h => exact ⟨'-', rfl, by decide, by decide, by decide, by decide⟩

theorem startsScalar_writeDouble (d : Double) : StartsScalar (writeDouble d) := by
  cases d with
  | nan => exact ⟨'N', rfl, by decide, by decide, by decide, by decide⟩
  | infinity negative =>
    cases negative with
    | false => exact ⟨'I', rfl, by decide, by decide, by decide, by decide⟩
    | true => exact ⟨'-', rfl, by decide, by decide, by decide, by decide⟩
  | finite negative mantissa exponent =>
    have hfinite : (Double.finite negative mantissa exponent).IsFinite := trivial
    exact startsScalar_of_isNumber (Double.isNumber_writeDouble hfinite)

theorem opens_write (layout : Layout) (j : Json) : Opens ']' (write layout j) := by
  cases j with
  | null => exact ⟨'n', by rw [write]; rfl, by decide, by decide⟩
  | bool b =>
    cases b with
    | false => exact ⟨'f', by rw [write]; rfl, by decide, by decide⟩
    | true => exact ⟨'t', by rw [write]; rfl, by decide, by decide⟩
  | int i =>
    rw [write]
    exact (startsScalar_of_isNumber (Text.isNumber_ofInt i)).opens
  | float d =>
    rw [write]
    exact (startsScalar_writeDouble d).opens
  | str t => exact ⟨.quote, by rw [write]; rfl, by decide, by decide⟩
  | arr items =>
    refine ⟨'[', ?_, by decide, by decide⟩
    cases items <;> (rw [write]; rfl)
  | obj members =>
    refine ⟨'\x7b', ?_, by decide, by decide⟩
    cases members <;> (rw [write]; rfl)

theorem writeString_append (t rest : Text) :
    writeString t ++ rest = .quote :: (t.flatMap writePoint ++ .quote :: rest) := by
  rw [writeString, List.cons_append, List.append_assoc]
  rfl

/-- A member is read back if its value is. -/
theorem readMember_written {readValue : Text → Reading Json} {m : Text × Json}
    (hkey : m.1.Unpaired) (hvalue : ReadsBack readValue (write layout) m.2) :
    ReadsBack (readMember readValue) (writeMember layout) m := by
  intro rest hrest
  have hblank : ∀ c ∈ ([' '] : Text), isSpace c = true := by decide
  have hskip : skipSpace ((' ' : CodePoint) :: (write layout m.2 ++ rest)) =
      write layout m.2 ++ rest := (opens_write layout m.2).skipSpace hblank rest
  have hcolon (t : Text) : skipSpace ((':' : CodePoint) :: t) = (':' : CodePoint) :: t :=
    skipSpace_cons (by decide)
  have htext : writeMember layout m ++ rest = .quote :: (m.1.flatMap writePoint ++
      .quote :: (':' : CodePoint) :: (' ' : CodePoint) :: (write layout m.2 ++ rest)) := by
    rw [writeMember, List.append_assoc, writeString_append, List.append_assoc]
    rfl
  rw [htext, readMember, if_pos rfl, readString_writeString hkey]
  simp only [hcolon, if_true, hskip, hvalue rest hrest]
  rfl

theorem StartsScalar.readsBack (h : StartsScalar t) (hwrite : write layout j = t)
    (hread : ∀ rest, EndsNumber rest → readScalar (t ++ rest) = .ok (j, rest)) (depth : ℕ) :
    ReadsBack (readValue depth) (write layout) j := by
  intro rest hrest
  rw [hwrite, h.readValue_eq, hread rest hrest]

theorem readsBack_str (ht : t.Unpaired) (depth : ℕ) :
    ReadsBack (readValue depth) (write layout) (str t) := by
  intro rest _
  rw [write, writeString_append, readValue_of_head (by decide) (by decide), readScalar, if_pos rfl,
    readString_writeString ht]
  rfl

theorem readsBack_arr {items : List Json}
    (h : ∀ item ∈ items, ReadsBack (readValue depth) (write layout.deeper) item) :
    ReadsBack (readValue (depth + 1)) (write layout) (arr items) := by
  intro rest hrest
  cases items with
  | nil =>
    have hclose : skipSpace ((']' : CodePoint) :: rest) = (']' : CodePoint) :: rest :=
      skipSpace_cons (by decide)
    have hempty : readEnclosed (readValue depth) ']' ((']' : CodePoint) :: rest) =
        .ok ([], rest) := by
      rw [readEnclosed, hclose]
      exact if_pos rfl
    rw [write]
    change readValue (depth + 1) (('[' : CodePoint) :: (']' : CodePoint) :: rest) = _
    rw [readValue, if_pos rfl, hempty]
    rfl
  | cons item items =>
    have hends : EndsNumber ((']' : CodePoint) :: rest) :=
      endsNumber_cons (by decide) (by decide) (by decide) (by decide)
    have hread := readEnclosed_written layout (by decide) (by decide) hends h
      fun item _ => opens_write layout.deeper item
    rw [write_arr_append, readValue, if_pos rfl, hread]
    rfl

theorem opens_writeMember (layout : Layout) (m : Text × Json) :
    Opens '\x7d' (writeMember layout m) :=
  ⟨.quote, rfl, by decide, by decide⟩

theorem readsBack_obj {members : List (Text × Json)} (hkeys : (members.map Prod.fst).Nodup)
    (htexts : ∀ m ∈ members, m.1.Unpaired)
    (h : ∀ m ∈ members, ReadsBack (readValue depth) (write layout.deeper) m.2) :
    ReadsBack (readValue (depth + 1)) (write layout) (obj members) := by
  intro rest hrest
  have hobject : ('\x7b' : CodePoint) ≠ '[' := by decide
  cases members with
  | nil =>
    have hclose : skipSpace (('\x7d' : CodePoint) :: rest) = ('\x7d' : CodePoint) :: rest :=
      skipSpace_cons (by decide)
    have hempty : readEnclosed (readMember (readValue depth)) '\x7d'
        (('\x7d' : CodePoint) :: rest) = .ok ([], rest) := by
      rw [readEnclosed, hclose]
      exact if_pos rfl
    rw [write]
    change readValue (depth + 1) (('\x7b' : CodePoint) :: ('\x7d' : CodePoint) :: rest) = _
    rw [readValue, if_neg hobject, if_pos rfl, hempty]
    rfl
  | cons m members =>
    have hends : EndsNumber (('\x7d' : CodePoint) :: rest) :=
      endsNumber_cons (by decide) (by decide) (by decide) (by decide)
    have hread := readEnclosed_written layout (by decide) (by decide) hends
      (fun m hm => readMember_written (htexts m hm) (h m hm))
      fun m _ => opens_writeMember layout.deeper m
    rw [write_obj_append, readValue, if_neg hobject, if_pos rfl, hread]
    -- The members are collected by key, which changes nothing where every key stands once.
    exact congrArg (fun ms => Except.ok (obj ms, rest)) (collect_of_nodup hkeys)

/-- A value within the limits is read back in any layout. -/
theorem readValue_write (h : Readable Survives depth j) (layout : Layout) :
    ReadsBack (readValue depth) (write layout) j := by
  induction h generalizing layout with
  | null =>
    have hstart : StartsScalar "null" := ⟨'n', rfl, by decide, by decide, by decide, by decide⟩
    exact hstart.readsBack (by rw [write]) (fun rest _ => rfl) _
  | bool b =>
    cases b with
    | false =>
      have hstart : StartsScalar "false" := ⟨'f', rfl, by decide, by decide, by decide, by decide⟩
      exact hstart.readsBack (by rw [write]; rfl) (fun rest _ => rfl) _
    | true =>
      have hstart : StartsScalar "true" := ⟨'t', rfl, by decide, by decide, by decide, by decide⟩
      exact hstart.readsBack (by rw [write]; rfl) (fun rest _ => rfl) _
  | @int _ i h =>
    have hstart := startsScalar_of_isNumber (Text.isNumber_ofInt i)
    exact hstart.readsBack (by rw [write]) (fun rest hrest => readScalar_ofInt h hrest) _
  | float h => exact (startsScalar_writeDouble _).readsBack (by rw [write]) h _
  | str h => exact readsBack_str h _
  | arr _ ih => exact readsBack_arr fun item hitem => ih item hitem _
  | obj hkeys htexts _ ih => exact readsBack_obj hkeys htexts fun m hm => ih m hm _

/-- A value within the limits is read back with blanks behind it. -/
theorem parse_write_append {blanks : Text} (h : Readable Survives depth j) (layout : Layout)
    (hblanks : ∀ c ∈ blanks, isSpace c = true) :
    parse (write layout j ++ blanks) depth = .ok j := by
  have hends : EndsNumber blanks := by
    cases blanks with
    | nil => exact endsNumber_nil
    | cons c blanks => exact endsNumber_of_isSpace (hblanks c List.mem_cons_self)
  have hskip := (opens_write layout j).skipSpace (List.forall_mem_nil _) blanks
  have hbehind : skipSpace (blanks ++ []) = [] := skipSpace_append hblanks (by simp)
  rw [List.nil_append] at hskip
  rw [List.append_nil] at hbehind
  rw [parse, hskip, readValue_write h layout blanks hends]
  simp only [hbehind]

theorem parse_write (h : Readable Survives depth j) (layout : Layout) :
    parse (write layout j) depth = .ok j := by
  have hread := parse_write_append h layout (List.forall_mem_nil _)
  rwa [List.append_nil] at hread

/-- No layout begins with a byte order mark. -/
theorem parseText_write (h : Readable Survives depth j) (layout : Layout) :
    parseText (write layout j) depth = .ok j := by
  have hmark : (write layout j).head? ≠ some (.ofNat 0xFEFF) := by
    intro hhead
    rcases laid_write layout j _ (List.mem_of_mem_head? hhead) with hprintable | ⟨-, hfeed⟩
    · exact absurd hprintable (by decide)
    · exact absurd hfeed (by decide)
  rw [parseText, if_neg hmark]
  exact parse_write h layout

/-- A value within the limits is read back from the line that it is written on. -/
theorem parseText_line (h : Readable Survives depth j) : parseText j.line depth = .ok j :=
  parseText_write h .oneLine

end ZigAdvisor.Json
