import ZigAdvisor.Proofs.Review.Measured
import ZigAdvisor.Proofs.Rpc.Messages

/-!
# Which messages get which replies

Every message but a notification gets one reply with its own id. A call of a tool is refused as
unknown exactly if no tool of that name is listed, and so is the reading of a resource. Nothing
fails within the server but the fetching of a resource.
-/

namespace ZigAdvisor.Rpc

variable {s : Settings} {net : Http.Outcome} {m : Json} {method : Text}

/-! ## Refusals -/

theorem kind?_callTool_of_forall_ne {name arguments : Json}
    (h : ∀ tool : Tool, name ≠ .str tool.name) :
    (callTool s name arguments).value.kind? = some .methodNotFound := by
  have hname : name.text?.bind Tool.ofName? = none := by
    rw [Option.eq_none_iff_forall_ne_some]
    intro tool hsome
    obtain ⟨t, htext, htool⟩ := Option.bind_eq_some_iff.mp hsome
    refine h tool ?_
    rw [Json.text?_eq_some.mp htext, Tool.ofName?_eq_some.mp htool]
  simp only [callTool, hname]
  rfl

theorem kind?_callTool_of_tool (tool : Tool) (arguments : Json) :
    (callTool s (.str tool.name) arguments).value.kind? = none ∨
      (callTool s (.str tool.name) arguments).value.kind? = some .invalidParams := by
  simp only [callTool, Tool.bind_ofName?]
  cases arguments with
  | obj args =>
    simp only [Traced.value_bind]
    cases (tool.call s args).value with
    | ok text => exact Or.inl rfl
    | error fault => exact Or.inr rfl
  | _ => exact Or.inr rfl

theorem kind?_callTool_eq_methodNotFound {name arguments : Json} :
    (callTool s name arguments).value.kind? = some .methodNotFound ↔
      ∀ tool : Tool, name ≠ .str tool.name := by
  constructor
  · rintro h tool rfl
    rcases kind?_callTool_of_tool (s := s) tool arguments with hkind | hkind
    · simp [hkind] at h
    · simp [hkind] at h
  · exact kind?_callTool_of_forall_ne

theorem kind?_callTool_ne_internalError {name arguments : Json} :
    (callTool s name arguments).value.kind? ≠ some .internalError := by
  by_cases h : ∃ tool : Tool, name = .str tool.name
  · obtain ⟨tool, rfl⟩ := h
    rcases kind?_callTool_of_tool (s := s) tool arguments with hkind | hkind
    · simp [hkind]
    · simp [hkind]
  · rw [kind?_callTool_of_forall_ne fun tool hname => h ⟨tool, hname⟩]
    simp

theorem kind?_readResource_eq_resourceNotFound {address : Text} :
    (readResource s net (.str address)).value.kind? = some .resourceNotFound ↔
      ∀ r : Resource, address ≠ r.uri := by
  rw [readResource]
  split
  · next hfind => exact iff_of_true rfl (Resource.ofUri?_eq_none_iff.mp hfind)
  · next r hfind =>
    refine iff_of_false ?_ fun h => h r (Resource.ofUri?_eq_some.mp hfind)
    simp only [Traced.value_bind]
    split <;> simp [Content.kind?, resourceResult]

theorem kind?_readResource_eq_internalError {uri : Json} :
    (readResource s net uri).value.kind? = some .internalError ↔
      ∃ r : Resource, uri = .str r.uri ∧ ∃ fault, (r.read s net).value = .error fault := by
  cases uri with
  | str address =>
    rw [readResource]
    split
    · next hfind =>
      refine iff_of_false (by simp [Content.kind?]) ?_
      rintro ⟨r, huri, -⟩
      exact Resource.ofUri?_eq_none_iff.mp hfind r (Json.str.inj huri)
    · next r hfind =>
      obtain rfl := Resource.ofUri?_eq_some.mp hfind
      have hread : (∃ r' : Resource, Json.str r.uri = .str r'.uri ∧
          ∃ fault, (r'.read s net).value = .error fault) ↔
          ∃ fault, (r.read s net).value = .error fault := by
        constructor
        · rintro ⟨r', huri, h⟩
          obtain rfl := Resource.uri_injective (Text.ofString_injective (Json.str.inj huri))
          exact h
        · exact fun h => ⟨r, rfl, h⟩
      rw [hread]
      simp only [Traced.value_bind]
      split
      · next hvalue => simp [hvalue, Content.kind?, resourceResult]
      · next hvalue => simp [hvalue, Content.kind?]
      · next hvalue => simp [hvalue, Content.kind?]
  | _ => simp [readResource, Content.kind?]

theorem kind?_answer_ne_internalError {params : Json} (h : method ≠ "resources/read") :
    (answer s net method params).value.kind? ≠ some .internalError := by
  unfold answer
  split_ifs
  · simp [Content.kind?]
  · simp [Content.kind?]
  · simp [Content.kind?]
  · split
    · exact kind?_callTool_ne_internalError
    · simp [Content.kind?]
  · simp [Content.kind?]
  · simp [Content.kind?]

theorem kind?_answer_eq_internalError {params : Json} :
    (answer s net method params).value.kind? = some .internalError ↔
      method = "resources/read" ∧ ∃ r : Resource, parameter params "uri" = .str r.uri ∧
        ∃ fault, (r.read s net).value = .error fault := by
  by_cases hmethod : method = "resources/read"
  · rw [hmethod, answer_readResource, kind?_readResource_eq_internalError]
    exact (and_iff_right rfl).symm
  · exact iff_of_false (kind?_answer_ne_internalError hmethod) fun h => hmethod h.1

theorem exists_params_eq_obj
    (h : ∀ p, m.member? "params" = some p → p.isBlank = true ∨ ∃ ps, p = .obj ps) :
    ∃ members, params m = .obj members := by
  rw [params]
  cases hp : m.member? "params" with
  | none => exact ⟨[], rfl⟩
  | some p =>
    rcases h p hp with hblank | ⟨ps, rfl⟩
    · exact ⟨[], if_pos hblank⟩
    · by_cases hblank : (Json.obj ps).isBlank = true
      · exact ⟨[], if_pos hblank⟩
      · exact ⟨ps, if_neg hblank⟩

/-! ## The replies -/

theorem handle_eq_none_iff : (handle s net m).value = none ↔
    ∃ method, Asks m method ∧ notificationStart <+: method := by
  by_cases h : ∃ method, Asks m method
  · obtain ⟨method, hmethod⟩ := h
    rw [handle_of_asks hmethod, Text.startsWith]
    split_ifs with hstart
    · exact iff_of_true rfl ⟨method, hmethod, List.isPrefixOf_iff_prefix.mp hstart⟩
    · refine iff_of_false (by simp) ?_
      rintro ⟨method', h', hprefix⟩
      rw [← hmethod.unique h'] at hprefix
      exact hstart (List.isPrefixOf_iff_prefix.mpr hprefix)
  · have hnone : ∀ method, ¬ Asks m method := fun method hmethod => h ⟨method, hmethod⟩
    rw [handle_of_forall_not_asks hnone]
    refine iff_of_false (by simp) ?_
    rintro ⟨method, hmethod, -⟩
    exact hnone method hmethod

theorem id_of_handle {r : Reply} (h : (handle s net m).value = some r) : r.id = messageId m := by
  by_cases hasks : ∃ method, Asks m method
  · obtain ⟨method, hmethod⟩ := hasks
    rw [handle_of_asks hmethod] at h
    split_ifs at h
    rw [← Option.some.inj h]
  · rw [handle_of_forall_not_asks fun method hmethod => hasks ⟨method, hmethod⟩] at h
    rw [← Option.some.inj h]

theorem member?_toJson (r : Reply) : r.toJson.member? "jsonrpc" = some (.str "2.0") ∧
    r.toJson.member? "id" = some r.id ∧
    (r.toJson.member? "result").isSome = !(r.toJson.member? "error").isSome := by
  obtain ⟨id, content⟩ := r
  cases content <;> exact ⟨rfl, rfl, rfl⟩

theorem errorKind?_eq_methodNotFound (h : Asks m "tools/call")
    (hparams : ∀ p, m.member? "params" = some p → p.isBlank = true ∨ ∃ ps, p = .obj ps) :
    errorKind? s net m = some .methodNotFound ↔
      ∀ tool : Tool, argument? m "name" ≠ some (.str tool.name) := by
  obtain ⟨members, hmembers⟩ := exists_params_eq_obj hparams
  rw [errorKind?_of_asks h (by decide), hmembers, answer_callTool,
    kind?_callTool_eq_methodNotFound, ← hmembers, parameter_params]
  refine forall_congr' fun tool => not_congr ?_
  cases argument? m "name" <;> simp

theorem errorKind?_eq_resourceNotFound {uri : Text} (h : Asks m "resources/read")
    (huri : argument? m "uri" = some (.str uri)) :
    errorKind? s net m = some .resourceNotFound ↔ ∀ r : Resource, uri ≠ r.uri := by
  rw [errorKind?_of_asks h (by decide), answer_readResource, parameter_params, huri]
  exact kind?_readResource_eq_resourceNotFound

theorem errorKind?_eq_internalError : errorKind? s net m = some .internalError ↔
    Asks m "resources/read" ∧ ∃ r ∈ Resource.remote, argument? m "uri" = some (.str r.uri) ∧
      ∃ fault, (r.read s net).value = .error fault := by
  constructor
  · intro h
    by_cases hasks : ∃ method, Asks m method
    · obtain ⟨method, hmethod⟩ := hasks
      cases hstart : method.startsWith notificationStart with
      | true => simp [errorKind?, content?, handle_of_asks hmethod, hstart] at h
      | false =>
        rw [errorKind?_of_asks hmethod hstart, kind?_answer_eq_internalError,
          parameter_params] at h
        obtain ⟨rfl, r, huri, fault, hread⟩ := h
        refine ⟨hmethod, r, Resource.mem_remote_of_read_error hread, ?_, fault, hread⟩
        cases hargument : argument? m "uri" <;> simp_all
    · have hnone : ∀ method, ¬ Asks m method := fun method hmethod => hasks ⟨method, hmethod⟩
      simp [errorKind?, content?, handle_of_forall_not_asks hnone, Content.kind?] at h
  · rintro ⟨hmethod, r, -, huri, hread⟩
    rw [errorKind?_of_asks hmethod (by decide), answer_readResource, parameter_params, huri,
      kind?_readResource_eq_internalError]
    exact ⟨r, rfl, hread⟩

/-- A message gets no reply exactly if it is a notification, and any other reply repeats the id and
carries a result or an error. A call of a tool or the reading of a resource is refused as unknown
exactly if it is not listed. The server fails exactly where the fetching of a remote resource does,
which is whenever the request meets no successful response. No report asks for a figure that is
not measured or divides by zero. -/
theorem handle_replies (s : Settings) (net : Http.Outcome) (m : Json) :
    ((handle s net m).value = none ↔
      ∃ method, Asks m method ∧ Text.ofString "notifications/" <+: method) ∧
    (∀ r, (handle s net m).value = some r →
      r.toJson.member? "jsonrpc" = some (.str "2.0") ∧
      r.toJson.member? "id" = some (messageId m) ∧
      (r.toJson.member? "result").isSome = !(r.toJson.member? "error").isSome) ∧
    (Asks m "tools/call" →
      (∀ p, m.member? "params" = some p → p.isBlank = true ∨ ∃ ps, p = .obj ps) →
      (errorKind? s net m = some .methodNotFound ↔
        ∀ name ∈ listedBy s net "tools/list" "tools" "name",
          argument? m "name" ≠ some (.str name))) ∧
    (∀ uri, Asks m "resources/read" → argument? m "uri" = some (.str uri) →
      (errorKind? s net m = some .resourceNotFound ↔
        uri ∉ listedBy s net "resources/list" "resources" "uri")) ∧
    (errorKind? s net m = some .internalError ↔
      Asks m "resources/read" ∧ ∃ r ∈ Resource.remote, argument? m "uri" = some (.str r.uri) ∧
        ∃ fault, (r.read s net).value = .error fault) ∧
    (net.isSuccess = false →
      ∀ r ∈ Resource.remote, ∃ fault, (r.read s net).value = .error fault) ∧
    FiguresMeasured := by
  refine ⟨handle_eq_none_iff, ?_, ?_, ?_, errorKind?_eq_internalError, ?_, figuresMeasured⟩
  · intro r hr
    rw [← id_of_handle hr]
    exact member?_toJson r
  · intro hcall hparams
    rw [errorKind?_eq_methodNotFound hcall hparams, listed_tools]
    simp [Tool.mem_all]
  · intro uri hread huri
    rw [errorKind?_eq_resourceNotFound hread huri, listed_resources]
    simp [Resource.mem_all, eq_comm]
  · exact fun hnet r hr => Resource.read_error hr hnet

/-- An unknown tool, an unknown resource, and a fetch whose connection breaks. -/
theorem handle_replies_refused :
    errorKind? .standard (.crash "reset") (.obj [("method", .str "tools/call"),
      ("params", .obj [("name", .str "optimise_code")])]) = some .methodNotFound ∧
    errorKind? .standard (.crash "reset") (.obj [("method", .str "resources/read"),
      ("params", .obj [("uri", .str "zig://repos")])]) = some .resourceNotFound ∧
    errorKind? .standard (.crash "reset") (.obj [("method", .str "resources/read"),
      ("params", .obj [("uri", .str "zig://repos/popular")])]) = some .internalError := by
  have h := handle_replies .standard (.crash "reset")
  refine ⟨?_, ?_, ?_⟩
  · refine ((h _).2.2.1 ?_ ?_).mpr ?_
    · rfl
    · intro p hp
      exact Or.inr ⟨_, (Option.some.inj hp).symm⟩
    · intro name hname heq
      rw [← Json.str.inj (Option.some.inj heq)] at hname
      exact absurd hname (by decide +kernel)
  · refine ((h _).2.2.2.1 "zig://repos" ?_ ?_).mpr (by decide +kernel)
    · rfl
    · rfl
  · refine (h _).2.2.2.2.1.mpr ⟨?_, .repositories, by decide, ?_, ?_⟩
    · rfl
    · rfl
    · exact (h .null).2.2.2.2.2.1 rfl .repositories (by decide)

end ZigAdvisor.Rpc
