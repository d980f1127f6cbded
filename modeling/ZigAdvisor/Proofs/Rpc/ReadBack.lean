import ZigAdvisor.Proofs.Json.Reading
import ZigAdvisor.Proofs.Json.RoundTrip
import ZigAdvisor.Proofs.Resource.Told
import ZigAdvisor.Proofs.Rpc.Sessions
import ZigAdvisor.Proofs.Rpc.ToolCalls
import ZigAdvisor.Proofs.Tool.Texts

/-!
# Replies are read back

What a reply repeats of a line was read from it, so it is within the limits of the reader, and what
the server tells of its own holds no pair of surrogates. So the line of a reply is read back as the
reply, unless the id holds a number that does not survive.
-/

namespace ZigAdvisor

open Json (Readable NoDouble AnyDouble readable_constant readable_object)

variable {depth : ℕ}

/-! ## What is advertised -/

theorem Tool.readable_schema (type : ArgumentType) (description : String) :
    Readable NoDouble 5 (.object (type.schema (.constant description))) := by
  have htype (name : String) : Readable NoDouble 1 (.object [("type", .constant name)]) :=
    readable_object _ (by simp) (by simp [readable_constant])
  cases type with
  | text default =>
    cases default <;>
      exact readable_object _ (by simp [ArgumentType.schema])
        (by simp [ArgumentType.schema, readable_constant])
  | mode =>
    refine readable_object _ (by simp [ArgumentType.schema]) ?_
    simp only [ArgumentType.schema, List.forall_mem_cons]
    exact ⟨readable_constant _, Json.readable_arr_map fun mode _ => readable_constant _,
      readable_constant _, readable_constant _, by simp⟩
  | textList =>
    refine readable_object _ (by simp [ArgumentType.schema]) ?_
    simp only [ArgumentType.schema, List.forall_mem_cons]
    exact ⟨readable_constant _, (htype _).mono (by decide), readable_constant _, by simp⟩
  | dependencyList =>
    have hproperties : Readable NoDouble 2 (.object [
        ("name", .object [("type", .constant "string")]),
        ("url", .object [("type", .constant "string")])]) :=
      readable_object _ (by simp) (by simp [htype])
    have hitems : Readable NoDouble 3 (.object [
        ("type", .constant "object"),
        ("properties", .object [
          ("name", .object [("type", .constant "string")]),
          ("url", .object [("type", .constant "string")])]),
        ("required", .arr [.constant "name"])]) := by
      refine readable_object _ (by simp) ?_
      simp only [List.forall_mem_cons]
      exact ⟨readable_constant _, hproperties, .arr (by simp [readable_constant]), by simp⟩
    refine readable_object _ (by simp [ArgumentType.schema]) ?_
    simp only [ArgumentType.schema, List.forall_mem_cons]
    exact ⟨readable_constant _, hitems.mono (by decide), readable_constant _, by simp⟩

theorem Tool.readable_inputSchema (t : Tool) : Readable NoDouble 7 t.inputSchema := by
  have hproperties : Readable NoDouble 6
      (.object (t.parameters.map fun p => (p.name, p.schema))) := by
    refine readable_object _ ?_ ?_
    · cases t <;> simp [parameters]
    · rw [List.forall_mem_map]
      exact fun p _ => readable_schema p.type p.description
  refine readable_object _ ?_ ?_
  · cases t <;> simp [required?]
  · simp only [List.forall_mem_append, List.forall_mem_cons, List.forall_mem_map]
    exact ⟨⟨readable_constant _, hproperties, by simp⟩,
      fun key _ => .arr (by simp [readable_constant])⟩

theorem Tool.readable_advertisement (t : Tool) : Readable NoDouble 8 t.advertisement := by
  refine readable_object _ (by simp) ?_
  simp only [List.forall_mem_cons]
  exact ⟨readable_constant _, readable_constant _, t.readable_inputSchema, by simp⟩

theorem Resource.readable_advertisement (r : Resource) : Readable NoDouble 1 r.advertisement :=
  readable_object [("uri", .constant r.uri), ("name", .constant r.title),
      ("description", .constant r.description), ("mimeType", .constant r.mimeType)]
    (by simp) (by simp [readable_constant])

namespace Rpc

/-- Whether what a reply carries can be read back. Schemas are nested deepest. -/
def Content.IsReadable : Content → Prop
  | .result value => Readable NoDouble 10 value
  | .error _ message => message.Unpaired

variable {s : Settings} {net : Http.Outcome} {text : Text}

theorem readable_introduction : Readable NoDouble 10 introduction := by
  have hempty : Readable NoDouble 1 (.object []) := readable_object [] (by simp) (by simp)
  have hcapabilities : Readable NoDouble 9
      (.object [("tools", .object []), ("resources", .object [])]) :=
    readable_object _ (by simp) (by simp [hempty.mono])
  have hserver : Readable NoDouble 9
      (.object [("name", .constant "zig-mcp-server"), ("version", .constant "0.2.0")]) :=
    readable_object _ (by simp) (by simp [readable_constant])
  refine readable_object [("protocolVersion", .constant "2024-11-05"), ("capabilities", _),
    ("serverInfo", _)] (by simp) ?_
  simp only [List.forall_mem_cons]
  exact ⟨readable_constant _, hcapabilities, hserver, by simp⟩

theorem isReadable_toolResult (h : text.Unpaired) : (toolResult text).IsReadable := by
  have hcontent : Readable NoDouble 8 (.object [("type", .constant "text"), ("text", .str text)]) :=
    readable_object _ (by simp) (by simp [readable_constant, Readable.str h])
  exact readable_object [("content", .arr [_])] (by simp)
    (List.forall_mem_singleton.mpr (.arr (List.forall_mem_singleton.mpr hcontent)))

theorem isReadable_resourceResult {address : Text} (haddress : address.Unpaired)
    (h : text.Unpaired) : (resourceResult address text).IsReadable := by
  have hcontent : Readable NoDouble 8 (.object [("uri", .str address),
      ("mimeType", .constant ((Resource.advertisedType? address).getD "")), ("text", .str text)]) :=
    readable_object _ (by simp) (by simp [readable_constant, Readable.str haddress, Readable.str h])
  exact readable_object [("contents", .arr [_])] (by simp)
    (List.forall_mem_singleton.mpr (.arr (List.forall_mem_singleton.mpr hcontent)))

variable {P : Double → Prop} {method : Text} {name arguments uri params : Json}

theorem isReadable_callTool (hs : s.defaultZigVersion.Unpaired) (hname : Readable P depth name)
    (harguments : Readable P depth arguments) :
    (callTool s name arguments).value.IsReadable := by
  unfold callTool
  split
  · have hshown : name.shown.Unpaired := by
      refine Json.unpaired_shown ?_
      rintro t rfl
      exact hname.unpaired
    exact Text.unpaired_constant _ (by simpa using hshown)
  · next tool _ =>
    split
    · next args =>
      have hrun := Tool.unpaired_run hs harguments tool
      simp only [Traced.value_bind, Tool.value_call]
      cases hresult : tool.run s args with
      | ok answer =>
        rw [hresult] at hrun
        exact isReadable_toolResult hrun
      | error fault =>
        rw [hresult] at hrun
        exact hrun
    · exact Text.unpaired_ofString _

theorem isReadable_readResource (hnet : net.IsUnpaired) (huri : Readable P depth uri) :
    (readResource s net uri).value.IsReadable := by
  unfold readResource
  split
  · next address =>
    split
    · exact Text.unpaired_constant _ (by simpa using huri.unpaired)
    · next r _ =>
      have hread := Resource.unpaired_read (s := s) hnet r
      simp only [Traced.value_bind]
      split
      · next text htext =>
        rw [htext] at hread
        exact isReadable_resourceResult huri.unpaired hread
      · next message hfault =>
        rw [hfault] at hread
        exact hread
      · next fault _ hfault =>
        rw [hfault] at hread
        have hmessage : fault.message.Unpaired := hread
        exact Text.unpaired_constant _ (by simpa using hmessage)
  · exact Text.unpaired_ofString _

theorem readable_filled {members : List (Text × Json)} (h : Readable P (depth + 1) (.obj members))
    (key : Text) : Readable P (depth + 1) (filled members key) := by
  have hempty : Readable P (depth + 1) (.obj []) := .obj (by simp) (by simp) (by simp)
  unfold filled
  split
  · exact hempty
  · next j hj =>
    split
    · exact hempty
    · exact h.of_find? hj

theorem readable_parameter (h : Readable P depth params) (key : Text) :
    Readable P depth (parameter params key) := by
  unfold parameter
  cases hj : params.member? key with
  | none => exact .null
  | some j => exact h.of_member? hj

theorem isReadable_answer (hs : s.defaultZigVersion.Unpaired) (hnet : net.IsUnpaired)
    (hmethod : method.Unpaired) (hparams : Readable P (depth + 1) params) :
    (answer s net method params).value.IsReadable := by
  unfold answer
  split_ifs
  · exact readable_introduction
  · exact .obj (by simp) (by simp) (by simp)
  · exact readable_object [("tools", .arr _)] (by simp)
      (by simpa using Json.readable_arr_map fun t _ => t.readable_advertisement)
  · split
    · exact isReadable_callTool hs (readable_parameter hparams _) (readable_filled hparams _)
    · exact Text.unpaired_ofString _
  · exact readable_object [("resources", .arr _)] (by simp)
      (by simpa using Json.readable_arr_map fun r _ => r.readable_advertisement.mono (by decide))
  · exact isReadable_readResource hnet (readable_parameter hparams _)
  · exact Text.unpaired_constant _ (by simpa using hmethod)

/-! ## Replies -/

variable {m : Json} {r : Reply} {line : Text}

theorem readable_params (hm : Readable P (depth + 1) m) :
    Readable P (depth + 1) (Rpc.params m) := by
  have hempty : Readable P (depth + 1) (.obj []) := .obj (by simp) (by simp) (by simp)
  unfold Rpc.params
  split
  · next j hj =>
    split
    · exact hempty
    · exact hm.of_member? hj
  · exact hempty

/-- The id is nested less deep than the message. -/
theorem readable_messageId (hm : Readable P (depth + 1) m) : Readable P depth (messageId m) := by
  cases m with
  | obj members =>
    rw [messageId, Json.member?]
    cases hid : Json.find? members "id" with
    | none => exact .null
    | some id => exact hm.of_find?_succ hid
  | _ => exact .null

theorem isReadable_content (hs : s.defaultZigVersion.Unpaired) (hnet : net.IsUnpaired)
    (hm : Readable P (depth + 1) m) (h : (handle s net m).value = some r) :
    r.content.IsReadable := by
  by_cases hasks : ∃ method, Asks m method
  · obtain ⟨method, hmethod⟩ := hasks
    rw [handle_of_asks hmethod] at h
    split at h
    · cases h
    · cases h
      exact isReadable_answer hs hnet (hm.of_member? hmethod).unpaired (readable_params hm)
  · rw [handle_of_forall_not_asks fun method hmethod => hasks ⟨method, hmethod⟩] at h
    cases h
    exact Text.unpaired_ofString _

/-- A reply can be read back around an id that can. -/
theorem Reply.readable_toJson (hdepth : 10 ≤ depth) (hid : Readable NoDouble depth r.id)
    (hcontent : r.content.IsReadable) : Readable NoDouble (depth + 1) r.toJson := by
  obtain ⟨id, content⟩ := r
  cases content with
  | result value =>
    have hvalue : Readable NoDouble depth value := hcontent.mono hdepth
    refine readable_object [("jsonrpc", .constant "2.0"), ("id", id), ("result", value)]
      (by simp) ?_
    simp only [List.forall_mem_cons]
    exact ⟨readable_constant _, hid, hvalue, by simp⟩
  | error kind message =>
    have hcode : (Text.ofNat kind.code.natAbs).length ≤ Text.maxDigits := by
      cases kind <;> decide
    have herror : Readable NoDouble 1
        (.object [("code", .int kind.code), ("message", .str message)]) :=
      readable_object _ (by simp) (by simp [Readable.int hcode, Readable.str hcontent])
    refine readable_object [("jsonrpc", .constant "2.0"), ("id", id), ("error", _)] (by simp) ?_
    simp only [List.forall_mem_cons]
    exact ⟨readable_constant _, hid, herror.mono (by omega), by simp⟩

/-- The settings of the server name a release without surrogates, whatever the environment is. -/
theorem unpaired_defaultZigVersion (env : Environment) :
    (Settings.ofEnvironment env).defaultZigVersion.Unpaired :=
  Text.unpaired_ofString _

theorem handle_of_reply? (h : reply? s (net, line) = some r)
    (hparse : Json.parseText (Text.trim line) s.nesting.lines = .ok m) :
    (handle s net m).value = some r := by
  rcases reply?_eq_some h with ⟨m', hm', hhandle⟩ | ⟨⟨fault, hfault⟩, -⟩
  · rw [hparse] at hm'
    rwa [Except.ok.inj hm']
  · rw [hparse] at hfault
    cases hfault

theorem readsBack_of_reply? (hline : line.Plain) (hs : s.defaultZigVersion.Unpaired) (hnet : net.IsUnpaired)
    (hparse : Json.parseText (Text.trim line) s.nesting.lines = .ok m)
    (hid : (messageId m).EveryDouble NoDouble) (h : reply? s (net, line) = some r) :
    (handle s net m).value = some r ∧ r.id = messageId m ∧
      ∀ depth, s.nesting.lines ≤ depth → Json.parseText r.line depth = .ok r.toJson := by
  have hhandle := handle_of_reply? h hparse
  obtain ⟨room, hroom⟩ := Nat.exists_eq_add_of_le s.nesting.lines_room
  -- The id is nested one level less deep than the message, which leaves a level for the reply.
  have hm : Readable AnyDouble (15 + room + 1) m :=
    (Json.readable_of_parseText hparse hline.trim).mono (by omega)
  have hrid : Readable NoDouble (15 + room) r.id := by
    rw [id_of_handle hhandle]
    exact (readable_messageId hm).of_everyDouble hid
  have hreply := Reply.readable_toJson (by omega) hrid (isReadable_content hs hnet hm hhandle)
  refine ⟨hhandle, id_of_handle hhandle, fun depth hdepth => Json.parseText_line ?_⟩
  exact (hreply.of_everyDouble (hreply.everyDouble.imp NoDouble.imp)).mono (by omega)

/-- A line without surrogates that is read as a message and replied to, with an id that holds
nothing but texts, whole numbers, words, and lists and objects of them, gets a line that is read
back as the reply, with the id of the message, by any reader that goes as deep. Here the release
that build scripts are made for, and what the transport tells of a failure, are taken to hold no
pair of surrogates. -/
theorem reply_reads_back (s : Settings) (net : Http.Outcome) (line : Text) (m : Json) (r : Reply)
    (hline : line.Plain) (hs : s.defaultZigVersion.Unpaired) (hnet : net.IsUnpaired)
    (hparse : Json.parseText (Text.trim line) s.nesting.lines = .ok m)
    (hid : (messageId m).EveryDouble NoDouble) (h : reply? s (net, line) = some r) :
    (handle s net m).value = some r ∧ r.id = messageId m ∧
      ∀ depth, s.nesting.lines ≤ depth → Json.parseText r.line depth = .ok r.toJson :=
  readsBack_of_reply? hline hs hnet hparse hid h

/-- An id and a method that are lone surrogates. -/
theorem reply_reads_back_surrogates :
    let line : Text := "\x7b\"id\": \"\\ud800\", \"method\": \"\\udc00\"\x7d"
    let r : Reply := ⟨.str [.ofNat 0xD800],
      .error .methodNotFound (.concat ["Unknown method: ", [.ofNat 0xDC00]])⟩
    reply? (.ofEnvironment []) (.crash "reset", line) = some r ∧
      Json.parseText r.line Nesting.usual.lines = .ok r.toJson := by
  intro line r
  let m : Json := .obj [("id", .str [.ofNat 0xD800]), ("method", .str [.ofNat 0xDC00])]
  have hreply : reply? (.ofEnvironment []) (.crash "reset", line) = some r := by rfl
  refine ⟨hreply, ?_⟩
  exact (reply_reads_back _ (.crash "reset") line m r (Text.plain_ofString _)
    (unpaired_defaultZigVersion []) (Text.unpaired_ofString _) (by rfl) (.str _) hreply).2.2 _
    le_rfl

/-- Whatever the environment is, the replies of a server that is started in it are read back. -/
theorem replies_of_environment_readBack (env : Environment) (hline : line.Plain)
    (hnet : net.IsUnpaired)
    (hparse : Json.parseText (Text.trim line) (Settings.ofEnvironment env).nesting.lines = .ok m)
    (hid : (messageId m).EveryDouble NoDouble)
    (h : reply? (.ofEnvironment env) (net, line) = some r) {depth : ℕ}
    (hdepth : (Settings.ofEnvironment env).nesting.lines ≤ depth) :
    r.id = messageId m ∧ Json.parseText r.line depth = .ok r.toJson :=
  have hread := readsBack_of_reply? hline (unpaired_defaultZigVersion env) hnet hparse hid h
  ⟨hread.2.1, hread.2.2 depth hdepth⟩

end Rpc

end ZigAdvisor
