import Mathlib.Data.List.TakeWhile
import ZigAdvisor.Proofs.Json.Printable
import ZigAdvisor.Proofs.Rpc.Records
import ZigAdvisor.Proofs.Rpc.Replies
import ZigAdvisor.Proofs.Text.Stream

/-!
# What a session prints

A session prints one line for each reply, in the order of the lines that are replied to, up to the
first line that ends it. The lines that are printed are printable, so they can be told apart in what
is printed, and a session that reads on after a line feed goes on as if it began there.
-/

namespace ZigAdvisor.Rpc

variable {s : Settings} {nets : ℕ → Http.Outcome} {v : Http.Outcome × Text}
  {vs ws : List (Http.Outcome × Text)} {x y line : Text} {net : Http.Outcome} {m : Json}

def handled (s : Settings) (v : Http.Outcome × Text) : Bool :=
  (handleLine s v.1 v.2).value.isOk

def reply? (s : Settings) (v : Http.Outcome × Text) : Option Reply :=
  (handleLine s v.1 v.2).value.toOption.join

def isFailure (r : LogRecord) : Bool := r.message.startsWith failureStart

/-! ## One line -/

theorem handleLine_blank (h : Text.trim line = []) : handleLine s net line = pure (.ok none) := by
  unfold handleLine
  simp [h]

theorem handleLine_ok (hline : Text.trim line ≠ [])
    (h : Json.parseText (Text.trim line) s.nesting.lines = .ok m) :
    (handleLine s net line).value = .ok (handle s net m).value := by
  unfold handleLine
  simp only [List.isEmpty_iff, hline, if_false, h]
  rfl

theorem handleLine_malformed {problem : Json.Problem} {rest : Text} (hline : Text.trim line ≠ [])
    (h : Json.parseText (Text.trim line) s.nesting.lines = .error (.malformed problem rest)) :
    (handleLine s net line).value = .ok (some ⟨.null, .error .parseError "Parse error"⟩) := by
  unfold handleLine
  simp only [List.isEmpty_iff, hline, if_false, h]
  rfl

theorem quiet_handleLine : (handleLine s net line).Logs Quiet := by
  unfold handleLine
  dsimp only
  split
  · exact Traced.logs_pure _
  · split
    · simp only [Traced.logs_bind, Traced.logs_pure, and_true]
      exact quiet_handle _
    · simp only [Traced.logs_bind, Traced.logs_log, Traced.logs_pure, and_true]
      exact quiet_concat (by decide) _
    · exact Traced.logs_pure _

/-- A line that is handled gets no reply if it is blank or a notification. -/
theorem reply?_eq_none_iff (h : handled s v = true) : reply? s v = none ↔
    Text.trim v.2 = [] ∨ ∃ m, Json.parseText (Text.trim v.2) s.nesting.lines = .ok m ∧
      ∃ method, Asks m method ∧ notificationStart <+: method := by
  unfold handled at h
  unfold reply?
  by_cases hline : Text.trim v.2 = []
  · rw [handleLine_blank hline]
    exact iff_of_true rfl (Or.inl hline)
  · cases hparse : Json.parseText (Text.trim v.2) s.nesting.lines with
    | ok m =>
      rw [handleLine_ok hline hparse]
      simp only [hline, false_or, Except.ok.injEq, exists_eq_left']
      exact handle_eq_none_iff
    | error fault =>
      refine iff_of_false ?_ (by simp [hline])
      cases fault with
      | malformed problem rest =>
        rw [handleLine_malformed hline hparse]
        simp [Except.toOption]
      | _ => simp [handleLine, hline, hparse, Except.isOk, Except.toBool] at h

theorem reply?_of_parse (hline : Text.trim line ≠ [])
    (h : Json.parseText (Text.trim line) s.nesting.lines = .ok m) :
    reply? s (net, line) = (handle s net m).value := by
  rw [reply?, handleLine_ok hline h]
  rfl

/-- A reply is to a message, or to a line that is no JSON. -/
theorem reply?_eq_some {r : Reply} (h : reply? s v = some r) :
    (∃ m, Json.parseText (Text.trim v.2) s.nesting.lines = .ok m ∧
        (handle s v.1 m).value = some r) ∨
      (∃ fault, Json.parseText (Text.trim v.2) s.nesting.lines = .error fault) ∧
        r = ⟨.null, .error .parseError "Parse error"⟩ := by
  unfold reply? at h
  by_cases hline : Text.trim v.2 = []
  · rw [handleLine_blank hline] at h
    cases h
  · cases hparse : Json.parseText (Text.trim v.2) s.nesting.lines with
    | ok m =>
      rw [handleLine_ok hline hparse] at h
      exact Or.inl ⟨m, rfl, h⟩
    | error fault =>
      cases fault with
      | malformed problem rest =>
        rw [handleLine_malformed hline hparse] at h
        exact Or.inr ⟨⟨_, rfl⟩, (Option.some.inj h).symm⟩
      | _ => simp [handleLine, hline, hparse, Except.toOption] at h

theorem value_answerLine : (answerLine s v.1 v.2).value =
    if handled s v then some ((reply? s v).map Reply.line).toList else none := by
  unfold answerLine handled reply?
  rw [Traced.value_bind]
  cases (handleLine s v.1 v.2).value with
  | ok reply => rfl
  | error fault => rfl

theorem records_answerLine_of_not_handled (h : handled s v = false) : ∃ fault,
    (answerLine s v.1 v.2).records = (handleLine s v.1 v.2).records ++
      [⟨.error, .concat ["Error processing message: ", Json.Fault.message v.2 fault]⟩] := by
  unfold answerLine handled at *
  rw [Traced.records_bind]
  cases hvalue : (handleLine s v.1 v.2).value with
  | ok reply =>
    rw [hvalue] at h
    cases h
  | error fault => exact ⟨fault, rfl⟩

/-! ## Some lines -/

theorem handleLines_cons (h : handled s v = true) : (handleLines s (v :: vs)).value =
    ((reply? s v).map Reply.line).toList ++ (handleLines s vs).value := by
  obtain ⟨net, line⟩ := v
  have hvalue := value_answerLine (s := s) (v := (net, line))
  rw [if_pos h] at hvalue
  rw [handleLines, Traced.value_bind, hvalue]
  rfl

theorem handleLines_cons_of_not_handled (h : handled s v = false) :
    (handleLines s (v :: vs)).value = [] := by
  obtain ⟨net, line⟩ := v
  have hvalue := value_answerLine (s := s) (v := (net, line))
  rw [h, if_neg (by simp)] at hvalue
  rw [handleLines, Traced.value_bind, hvalue]
  rfl

theorem value_handleLines : (handleLines s vs).value =
    (vs.takeWhile (handled s)).filterMap fun v => (reply? s v).map Reply.line := by
  induction vs with
  | nil => rfl
  | cons v vs ih =>
    cases h : handled s v with
    | true =>
      rw [handleLines_cons h, List.takeWhile_cons_of_pos h, List.filterMap_cons, ih]
      cases (reply? s v).map Reply.line <;> rfl
    | false =>
      rw [handleLines_cons_of_not_handled h, List.takeWhile_cons_of_neg (by simp [h])]
      rfl

theorem filter_isFailure {α : Type} {x : Traced α} (h : x.Logs Quiet) :
    x.records.filter isFailure = [] := by
  rw [List.filter_eq_nil_iff]
  intro r hr
  rw [isFailure, Text.startsWith, List.isPrefixOf_iff_prefix]
  exact h r hr

theorem failures_answerLine : (answerLine s v.1 v.2).records.countP isFailure =
    if handled s v then 0 else 1 := by
  have hquiet : (handleLine s v.1 v.2).records.filter isFailure = [] :=
    filter_isFailure quiet_handleLine
  unfold answerLine handled
  rw [Traced.records_bind, List.countP_append, List.countP_eq_length_filter, hquiet]
  cases (handleLine s v.1 v.2).value with
  | ok reply => rfl
  | error fault => rfl

theorem failures_handleLines : (handleLines s vs).records.countP isFailure =
    if vs.all (handled s) then 0 else 1 := by
  induction vs with
  | nil => rfl
  | cons v vs ih =>
    obtain ⟨net, line⟩ := v
    have hvalue := value_answerLine (s := s) (v := (net, line))
    have hrecords := failures_answerLine (s := s) (v := (net, line))
    rw [handleLines, Traced.records_bind, List.countP_append, hrecords, hvalue, List.all_cons]
    cases handled s (net, line) with
    | true =>
      rw [if_pos rfl, if_pos rfl, Nat.zero_add, Bool.true_and, ← ih]
      simp
    | false => rfl

theorem visits_append (hx : x.getLast? = some ('\n' : CodePoint)) : visits nets (x ++ y) =
    visits nets x ++ visits (fun n => nets (n + x.streamLines.length)) y := by
  unfold visits
  rw [Text.streamLines_append hx, List.mapIdx_append]

/-! ## Sessions -/

theorem value_session : (session s nets x).value =
    ((visits nets x).takeWhile (handled s)).filterMap fun v => (reply? s v).map Reply.line :=
  value_handleLines

theorem value_session_append (hx : x.getLast? = some ('\n' : CodePoint))
    (hhandled : ∀ v ∈ visits nets x, handled s v = true) : (session s nets (x ++ y)).value =
      (session s nets x).value ++
        (session s (fun n => nets (n + x.streamLines.length)) y).value := by
  rw [value_session, value_session, value_session, visits_append hx,
    List.takeWhile_append_of_pos hhandled, List.takeWhile_eq_self_iff.mpr hhandled,
    List.filterMap_append]

theorem printable_of_mem_session (h : line ∈ (session s nets x).value) : Text.Printable line := by
  rw [value_session] at h
  obtain ⟨v, -, hline⟩ := List.mem_filterMap.mp h
  obtain ⟨r, -, rfl⟩ := Option.map_eq_some_iff.mp hline
  exact r.printable_line

theorem failures_session : (session s nets x).records.countP isFailure =
    if (visits nets x).all (handled s) then 0 else 1 := by
  have hopening : (opening s).records.countP isFailure = 0 := by
    have hquiet : (opening s).Logs Quiet := by
      simp only [opening, Traced.logs_bind, Traced.logs_log]
      refine ⟨?_, quiet_concat (by decide) _⟩
      change ¬ failureStart <+: Text.ofString _
      decide
    rw [List.countP_eq_length_filter, filter_isFailure hquiet, List.length_nil]
  rw [session, Traced.records_bind, List.countP_append, hopening, Nat.zero_add]
  exact failures_handleLines

/-- A session prints one line for each reply to the lines before the first that is not handled, in
their order. Blank lines and notifications get none. The printed lines are in ASCII and what is
printed falls apart into them. A line that is not handled is recorded once, and the last that is
read. What is printed for a stream that ends with a line feed does not depend on what follows. -/
theorem session_prints (s : Settings) (nets : ℕ → Http.Outcome) (input : Text) :
    (session s nets input).value =
      ((visits nets input).takeWhile (handled s)).filterMap (fun v => (reply? s v).map Reply.line) ∧
    (∀ v, handled s v = true → (reply? s v = none ↔
      Text.trim v.2 = [] ∨ ∃ m, Json.parseText (Text.trim v.2) s.nesting.lines = .ok m ∧
        ∃ method, Asks m method ∧ Text.ofString "notifications/" <+: method)) ∧
    (∀ line ∈ (session s nets input).value, ∀ c ∈ line,
      c.isAscii = true ∧ c ≠ ('\n' : CodePoint) ∧ c ≠ ('\r' : CodePoint)) ∧
    Text.splitAtNewlines (printed (session s nets input).value) =
      (session s nets input).value ++ [[]] ∧
    (session s nets input).records.countP
        (fun r => r.message.startsWith "Error processing message") =
      (if (visits nets input).all (handled s) then 0 else 1) ∧
    (∀ x y, input = x ++ y → x.getLast? = some ('\n' : CodePoint) →
      (∀ v ∈ visits nets x, handled s v = true) →
      printed (session s nets input).value = printed (session s nets x).value ++
        printed (session s (fun n => nets (n + x.streamLines.length)) y).value) := by
  refine ⟨value_session, fun v hv => reply?_eq_none_iff hv, ?_, ?_, failures_session, ?_⟩
  · intro line hline c hc
    have hprintable := printable_of_mem_session hline c hc
    exact ⟨hprintable.isAscii, hprintable.ne_newline, hprintable.ne_return⟩
  · apply splitAtNewlines_printed
    intro line hline c hc
    exact (printable_of_mem_session hline c hc).ne_newline
  · rintro x y rfl hx hhandled
    rw [value_session_append hx hhandled, printed_append]

/-- Two requests one after the other, and a blank line. -/
theorem session_prints_pings :
    let ping : Text := "\x7b\"id\": 1, \"method\": \"ping\"\x7d\n"
    let net : ℕ → Http.Outcome := fun _ => .crash "reset"
    printed (session .standard net (ping ++ ping)).value =
        printed (session .standard net ping).value ++ printed (session .standard net ping).value ∧
      reply? .standard (net 0, " ") = none := by
  have h := session_prints .standard fun _ => .crash "reset"
  refine ⟨(h _).2.2.2.2.2 _ _ rfl (by decide) (by decide +kernel), ?_⟩
  exact ((h []).2.1 _ (by decide +kernel)).mpr (Or.inl (by decide +kernel))

end ZigAdvisor.Rpc
