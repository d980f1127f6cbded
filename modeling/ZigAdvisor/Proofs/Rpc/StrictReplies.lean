import ZigAdvisor.Proofs.Json.Strict
import ZigAdvisor.Proofs.Rpc.ReadBack

/-!
# Replies in strict JSON

What the server tells of its own holds whole numbers only, so the line of a reply is strict JSON
exactly if the id that it repeats holds no number that is beyond double precision. A strict line may
ask with such an id, and what it gets is no JSON.
-/

namespace ZigAdvisor.Rpc

open Json (EveryDouble NoDouble IsStrict)

variable {s : Settings} {net : Http.Outcome} {r : Reply} {m : Json}

def Content.EveryDouble (P : Double → Prop) : Content → Prop
  | .result value => value.EveryDouble P
  | .error _ _ => True

theorem noDouble_toolResult (text : Text) : (toolResult text).EveryDouble NoDouble := by
  simp [toolResult, Content.EveryDouble]

theorem noDouble_resourceResult (uri text : Text) :
    (resourceResult uri text).EveryDouble NoDouble := by
  simp [resourceResult, Content.EveryDouble, Json.constant]

theorem noDouble_callTool (name arguments : Json) :
    (callTool s name arguments).value.EveryDouble NoDouble := by
  unfold callTool
  split
  · trivial
  · split
    · simp only [Traced.value_bind, Tool.value_call]
      split
      · exact noDouble_toolResult _
      · trivial
    · trivial

theorem noDouble_readResource (uri : Json) :
    (readResource s net uri).value.EveryDouble NoDouble := by
  unfold readResource
  split
  · split
    · trivial
    · next r _ =>
      simp only [Traced.value_bind]
      split
      · exact noDouble_resourceResult _ _
      · trivial
      · trivial
  · trivial

theorem noDouble_answer (method : Text) (params : Json) :
    (answer s net method params).value.EveryDouble NoDouble := by
  have htools : ∀ t ∈ Tool.all, t.advertisement.EveryDouble NoDouble :=
    fun t _ => t.readable_advertisement.everyDouble
  have hresources : ∀ r ∈ Resource.all, r.advertisement.EveryDouble NoDouble :=
    fun r _ => r.readable_advertisement.everyDouble
  unfold answer
  split_ifs
  · simp [Content.EveryDouble, introduction]
  · simp [Content.EveryDouble]
  · simpa [Content.EveryDouble] using htools
  · split
    · exact noDouble_callTool _ _
    · trivial
  · simpa [Content.EveryDouble] using hresources
  · exact noDouble_readResource _
  · trivial

theorem noDouble_handle (h : (handle s net m).value = some r) : r.content.EveryDouble NoDouble := by
  by_cases hasks : ∃ method, Asks m method
  · obtain ⟨method, hmethod⟩ := hasks
    rw [handle_of_asks hmethod] at h
    split at h
    · cases h
    · cases h
      exact noDouble_answer _ _
  · rw [handle_of_forall_not_asks fun method hmethod => hasks ⟨method, hmethod⟩] at h
    cases h
    trivial

/-- Around a result without such numbers, the numbers of a reply are those of its id. -/
theorem Reply.everyDouble_toJson {P : Double → Prop} (h : r.content.EveryDouble NoDouble) :
    r.toJson.EveryDouble P ↔ r.id.EveryDouble P := by
  obtain ⟨id, content⟩ := r
  cases content with
  | result value =>
    have hvalue : value.EveryDouble P := EveryDouble.imp NoDouble.imp h
    simp [Reply.toJson, hvalue]
  | error kind message => simp [Reply.toJson]

/-- The line of a reply is strict JSON, unless the line that it replies to is read as a message
whose id holds a number that is not finite. -/
theorem reply_isStrict_iff (s : Settings) (net : Http.Outcome) (line : Text) (r : Reply)
    (h : reply? s (net, line) = some r) : IsStrict r.line ↔
      ∀ m, Json.parseText (Text.trim line) s.nesting.lines = .ok m →
        (messageId m).EveryDouble Double.IsFinite := by
  rcases reply?_eq_some h with ⟨m, hparse, hhandle⟩ | ⟨⟨fault, hparse⟩, rfl⟩
  · rw [Reply.line, Json.isStrict_line_iff, Reply.everyDouble_toJson (noDouble_handle hhandle),
      id_of_handle hhandle]
    constructor
    · intro hid m' hm'
      rw [hparse] at hm'
      rwa [← Except.ok.inj hm']
    · exact fun hid => hid m hparse
  · refine iff_of_true ?_ ?_
    · refine Json.isStrict_line_iff.mpr ((Reply.everyDouble_toJson ?_).mpr .null)
      trivial
    · intro m hm
      rw [hparse] at hm
      cases hm

/-- A ping with a fraction as its id. -/
theorem reply_isStrict_iff_half :
    let line : Text := "\x7b\"id\": 0.5, \"method\": \"ping\"\x7d"
    let r : Reply := ⟨.float (.ofDecimal false 5 (-1)), .result (.obj [])⟩
    reply? .standard (.crash "reset", line) = some r ∧ IsStrict r.line := by
  intro line r
  have hreply : reply? .standard (.crash "reset", line) = some r := by rfl
  refine ⟨hreply, (reply_isStrict_iff .standard (.crash "reset") line r hreply).mpr ?_⟩
  intro m hm
  have hparse : Json.parseText (Text.trim line) Settings.standard.nesting.lines =
      .ok (.obj [("id", .float (.ofDecimal false 5 (-1))), ("method", .str "ping")]) := by rfl
  rw [hparse] at hm
  have hhalf : Double.ofDecimal false 5 (-1) = .finite false (2 ^ 52) 1021 := by decide +kernel
  rw [← Except.ok.inj hm, hhalf]
  exact .float trivial

/-- A ping whose id is beyond double precision is strict JSON, and its reply is not. -/
theorem infinite_id_reply_not_strict :
    let line : Text := "\x7b\"jsonrpc\":\"2.0\",\"id\":1e400,\"method\":\"ping\"\x7d"
    IsStrict line ∧ ∃ r, reply? .standard (.crash "reset", line) = some r ∧
      r.line = Text.ofString
        "\x7b\"jsonrpc\": \"2.0\", \"id\": Infinity, \"result\": \x7b\x7d\x7d" ∧
      ¬ IsStrict r.line := by
  intro line
  have hnumber : Text.IsNumber (Text.ofString "1e400") := by
    have hwhole : Text.IsWhole (Text.ofString "1") := ⟨⟨by decide, by decide⟩, by decide⟩
    have hpower : Text.AreDigits (Text.ofString "400") := ⟨by decide, by decide⟩
    exact .plain (.mk hwhole .none (.unsigned (Or.inl rfl) hpower))
  have hline : IsStrict line := by
    have hkey (key : Text) : Json.IsKey (Json.writeString key) :=
      (Json.isString_writeString key).isKey
    have hstring (t : Text) : IsStrict (Json.writeString t) := .string (Json.isString_writeString t)
    let members : List (Text × Text) := [(Json.writeString "jsonrpc", Json.writeString "2.0"),
      (Json.writeString "id", "1e400"), (Json.writeString "method", Json.writeString "ping")]
    have hkeys : ∀ m ∈ members, Json.IsKey m.1 := by simp [members, hkey]
    exact .obj hkeys (by simp [members, hstring, IsStrict.number hnumber])
  have hinfinite : Double.ofDecimal false 1 400 = .infinity false := by decide +kernel
  have hparse : Json.parseText (Text.trim line) Settings.standard.nesting.lines =
      .ok (.obj [("jsonrpc", .str "2.0"),
      ("id", .float (.ofDecimal false 1 400)), ("method", .str "ping")]) := by rfl
  have hreply : reply? .standard (.crash "reset", line) =
      some ⟨.float (.infinity false), .result (.obj [])⟩ := by
    rw [reply?_of_parse (by decide) hparse, hinfinite]
    rfl
  refine ⟨hline, _, hreply, rfl, fun hstrict => ?_⟩
  exact absurd hstrict.passes (by decide)

end ZigAdvisor.Rpc
