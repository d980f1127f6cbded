import ZigAdvisor.Proofs.Json.Numerals
import ZigAdvisor.Proofs.Rpc.Sessions

/-!
# Lines beyond the limits of the reader

A line ends the session exactly if the reader gives up on it at one of its limits. Such a line holds
more digits in a row than a whole number may have, or more opening brackets than values may be
nested, whatever that limit is; any other line that is no JSON is answered as such, and the session
goes on to the end of its input. The input is decoded text here: bytes that cannot be decoded end a
session as well, before there is a line.
-/

namespace ZigAdvisor.Rpc

variable {s : Settings} {nets : ℕ → Http.Outcome} {net : Http.Outcome}
  {v : Http.Outcome × Text} {vs : List (Http.Outcome × Text)} {line digits rest : Text} {depth : ℕ}

/-- Whether the reader gives up on a line at one of its limits; it goes `depth` deep. -/
def MeetsLimit (depth : ℕ) (line : Text) : Prop :=
  ∃ fault, Json.parseText (Text.trim line) depth = .error fault ∧ fault.isLimit = true

theorem handled_iff : handled s (net, line) = true ↔ ¬ MeetsLimit s.nesting.lines line := by
  unfold handled MeetsLimit
  by_cases hline : Text.trim line = []
  · rw [handleLine_blank hline, hline, Json.parseText_nil]
    refine iff_of_true rfl ?_
    rintro ⟨fault, hfault, hlimit⟩
    rw [← Except.error.inj hfault] at hlimit
    cases hlimit
  · cases hparse : Json.parseText (Text.trim line) s.nesting.lines with
    | ok m =>
      rw [handleLine_ok hline hparse]
      exact iff_of_true rfl (by simp)
    | error fault =>
      cases hlimit : fault.isLimit with
      | false =>
        cases fault with
        | malformed problem rest =>
          rw [handleLine_malformed hline hparse]
          refine iff_of_true rfl ?_
          rintro ⟨fault, hfault, hlimit'⟩
          rw [← Except.error.inj hfault] at hlimit'
          cases hlimit'
        | _ => cases hlimit
      | true =>
        refine iff_of_false ?_ (by simp [hlimit])
        cases fault with
        | malformed problem rest => cases hlimit
        | _ => simp [handleLine, hline, hparse, Except.isOk, Except.toBool]

/-- A line that is no JSON is answered as such, unless it meets a limit. -/
theorem handleLine_of_not_meetsLimit {fault : Json.Fault} (hline : Text.trim line ≠ [])
    (hfault : Json.parseText (Text.trim line) s.nesting.lines = .error fault)
    (h : ¬ MeetsLimit s.nesting.lines line) :
    (handleLine s net line).value = .ok (some ⟨.null, .error .parseError "Parse error"⟩) := by
  cases fault with
  | malformed problem rest => exact handleLine_malformed hline hfault
  | _ => exact absurd ⟨_, hfault, rfl⟩ h

/-- What a line that meets a limit holds too much of. -/
theorem MeetsLimit.exceeds (h : MeetsLimit depth line) :
    (∃ digits, digits <:+: line ∧ Text.maxDigits < digits.length ∧
      ∀ c ∈ digits, c.isAsciiDigit = true) ∨ depth < Json.openings line := by
  obtain ⟨fault, hfault, hlimit⟩ := h
  have hexceeds := Json.exceeds_of_parseText hfault
  have htrim := Text.trim_isInfix line
  cases fault with
  | malformed problem rest => cases hlimit
  | longInteger n =>
    obtain ⟨hn, digits, hwithin, rfl, hdigits⟩ := hexceeds
    exact Or.inl ⟨digits, hwithin.trans htrim, hn, hdigits⟩
  | deepArray => exact Or.inr (Nat.lt_of_lt_of_le hexceeds htrim.sublist.countP_le)
  | deepObject => exact Or.inr (Nat.lt_of_lt_of_le hexceeds htrim.sublist.countP_le)

theorem trim_of_ends (hhead : ∀ c ∈ line.head?, c.isBlank = false)
    (hlast : ∀ c ∈ line.getLast?, c.isBlank = false) : Text.trim line = line := by
  have hdrop {t : Text} (h : ∀ c ∈ t.head?, c.isBlank = false) :
      t.dropWhile CodePoint.isBlank = t := by
    cases t with
    | nil => rfl
    | cons c t => exact List.dropWhile_cons_of_neg (by simp [h c rfl])
  have hreverse : ∀ c ∈ line.reverse.head?, c.isBlank = false := by
    rw [List.head?_reverse]
    exact hlast
  rw [Text.trim, Text.trimLeft, hdrop hhead, Text.trimRight, hdrop hreverse, List.reverse_reverse]

theorem isSpace_of_isAsciiDigit {c : CodePoint} (hc : c.isAsciiDigit = true) :
    Json.isSpace c = false := by
  have hval := CodePoint.isAsciiDigit_iff.mp hc
  simp only [Json.isSpace, Bool.or_eq_false_iff, beq_eq_false_iff_ne]
  omega

/-- A line that begins with a whole number of too many digits meets a limit. -/
theorem meetsLimit_of_digits (hline : Text.trim line = digits ++ rest) (hdigits : digits.IsWhole)
    (hlong : Text.maxDigits < digits.length) (hrest : Json.EndsNumber rest) :
    MeetsLimit depth line := by
  refine ⟨.longInteger digits.length, ?_, rfl⟩
  have hread := Json.readScalar_whole hdigits hrest
  rw [if_pos hlong] at hread
  obtain ⟨c, more, rfl⟩ := List.exists_cons_of_ne_nil hdigits.ne_nil
  have hc : c.isAsciiDigit = true := hdigits.digit c List.mem_cons_self
  have hne {d : CodePoint} (hd : d.isAsciiDigit = false) : c ≠ d := by
    rintro rfl
    rw [hc] at hd
    cases hd
  -- The reader comes to the digits at once: neither a byte order mark nor a blank is in front.
  have hmark : (c :: (more ++ rest)).head? ≠ some (.ofNat 0xFEFF) := fun h =>
    hne (by decide) (Option.some.inj h)
  have hskip : Json.skipSpace (c :: (more ++ rest)) = c :: (more ++ rest) :=
    List.dropWhile_cons_of_neg (by simp [isSpace_of_isAsciiDigit hc])
  rw [List.cons_append] at hline hread
  rw [hline, Json.parseText, if_neg hmark, Json.parse, hskip,
    Json.readValue_of_head (hne (by decide)) (hne (by decide)), hread]

/-- A line that begins with too many brackets meets a limit. -/
theorem meetsLimit_of_brackets
    (hline : Text.trim line = List.replicate (depth + 1) ('[' : CodePoint) ++ rest) :
    MeetsLimit depth line := by
  refine ⟨.deepArray, ?_, rfl⟩
  have hread := Json.readValue_brackets depth rest
  rw [List.replicate_succ, List.cons_append] at hline hread
  have hmark (t : Text) : (('[' : CodePoint) :: t).head? ≠ some (.ofNat 0xFEFF) := by
    rw [List.head?_cons]
    decide
  have hskip (t : Text) : Json.skipSpace (('[' : CodePoint) :: t) = ('[' : CodePoint) :: t := rfl
  rw [hline, Json.parseText, if_neg (hmark _), Json.parse, hskip, hread]

/-! ## The end of a session -/

/-- The last record tells how the lines come to an end. -/
theorem exists_last_handleLines (s : Settings) (vs : List (Http.Outcome × Text)) :
    ∃ front last, (handleLines s vs).records = front ++ [last] ∧
    (last.message = Text.ofString "EOF detected, shutting down" ↔ vs.all (handled s) = true) := by
  induction vs with
  | nil => exact ⟨[], _, rfl, iff_of_true rfl rfl⟩
  | cons v vs ih =>
    obtain ⟨net, line⟩ := v
    have hvalue := value_answerLine (s := s) (v := (net, line))
    rw [handleLines, Traced.records_bind, hvalue, List.all_cons]
    cases hhandled : handled s (net, line) with
    | true =>
      obtain ⟨front, last, hrecords, hlast⟩ := ih
      refine ⟨(answerLine s net line).records ++ front, last, ?_, by simpa using hlast⟩
      rw [if_pos rfl, List.append_assoc, ← hrecords]
      simp
    | false =>
      obtain ⟨fault, hrecords⟩ := records_answerLine_of_not_handled hhandled
      refine ⟨(handleLine s net line).records, ⟨.error, .concat ["Error processing message: ",
        Json.Fault.message line fault]⟩, ?_, iff_of_false ?_ (by simp)⟩
      · rw [if_neg (by simp), hrecords]
        exact List.append_nil _
      · intro hmessage
        have hsecond := congrArg (·[1]?) hmessage
        exact absurd (Option.some.inj hsecond) (by decide)

theorem mem_visits (h : v ∈ visits nets line) : v.2 ∈ line.streamLines := by
  obtain ⟨n, hn, rfl⟩ := List.mem_mapIdx.mp h
  exact List.getElem_mem hn

theorem exists_mem_visits (nets : ℕ → Http.Outcome) {input : Text} (h : line ∈ input.streamLines) :
    ∃ net, (net, line) ∈ visits nets input := by
  obtain ⟨n, hn, rfl⟩ := List.mem_iff_getElem.mp h
  exact ⟨nets n, List.mem_mapIdx.mpr ⟨n, hn, rfl⟩⟩

theorem all_handled_iff {input : Text} : (visits nets input).all (handled s) = true ↔
    ∀ line ∈ input.streamLines, ¬ MeetsLimit s.nesting.lines line := by
  rw [List.all_eq_true]
  constructor
  · intro h line hline
    obtain ⟨net, hmem⟩ := exists_mem_visits nets hline
    exact handled_iff.mp (h _ hmem)
  · intro h v hv
    exact handled_iff.mpr (h _ (mem_visits hv))

def onesAndLetter (n : ℕ) : Text := List.replicate n ('1' : CodePoint) ++ Text.ofString " x"

theorem isWhole_ones {n : ℕ} (hn : 0 < n) : Text.IsWhole (List.replicate n ('1' : CodePoint)) := by
  obtain ⟨n, rfl⟩ := Nat.exists_eq_succ_of_ne_zero (Nat.ne_of_gt hn)
  refine ⟨⟨by simp, fun c hc => ?_⟩, fun hhead => ?_⟩
  · rw [List.eq_of_mem_replicate hc]
    decide
  · rw [List.replicate_succ, List.head?_cons] at hhead
    exact absurd (Option.some.inj hhead) (by decide)

theorem trim_onesAndLetter {n : ℕ} (hn : 0 < n) :
    Text.trim (onesAndLetter n) = onesAndLetter n := by
  obtain ⟨n, rfl⟩ := Nat.exists_eq_succ_of_ne_zero (Nat.ne_of_gt hn)
  apply trim_of_ends
  · rw [onesAndLetter, List.replicate_succ, List.cons_append, List.head?_cons]
    decide
  · rw [onesAndLetter, List.getLast?_append_of_ne_nil _ (by decide)]
    decide

theorem meetsLimit_onesAndLetter {n : ℕ} (hn : Text.maxDigits < n) :
    MeetsLimit depth (onesAndLetter n) := by
  have hpos : 0 < n := Nat.zero_lt_of_lt hn
  refine meetsLimit_of_digits (trim_onesAndLetter hpos) (isWhole_ones hpos) ?_ ?_
  · rwa [List.length_replicate]
  · exact Json.endsNumber_cons (by decide) (by decide) (by decide) (by decide)

theorem ne_newline_of_mem_onesAndLetter {n : ℕ} {c : CodePoint} (hc : c ∈ onesAndLetter n) :
    c ≠ ('\n' : CodePoint) := by
  rcases List.mem_append.mp hc with hone | hletter
  · rw [List.eq_of_mem_replicate hone]
    decide
  · have h : ∀ c ∈ Text.ofString " x", c ≠ ('\n' : CodePoint) := by decide
    exact h c hletter

/-- Nothing is answered behind a line that meets a limit. -/
theorem value_session_of_meetsLimit (hline : ∀ c ∈ line, c ≠ ('\n' : CodePoint))
    (h : MeetsLimit s.nesting.lines line) (rest : Text) :
    (session s nets (line ++ ('\n' : CodePoint) :: rest)).value = [] := by
  have hlines : Text.streamLines (line ++ ('\n' : CodePoint) :: rest) =
      line :: Text.streamLines rest := by
    rw [Text.streamLines_append_newline, Text.splitAtNewlines, Text.pieces_of_forall_ne hline]
    rfl
  have hhandled : handled s (nets 0, line) = false := by
    rw [Bool.eq_false_iff, ne_eq, handled_iff]
    exact not_not_intro h
  rw [value_session, visits, hlines, List.mapIdx_cons,
    List.takeWhile_cons_of_neg (by simp [hhandled])]
  rfl

end ZigAdvisor.Rpc
