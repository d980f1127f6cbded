import ZigAdvisor.Proofs.Json.Members
import ZigAdvisor.Proofs.Resource.Reading
import ZigAdvisor.Rpc.Handle

/-!
# Messages

What a message asks for and what it passes along, and the reply as what the method answers to the
parameters. A message that names no method is answered as invalid.
-/

namespace ZigAdvisor

namespace Tool

theorem mem_all (t : Tool) : t ∈ all := by cases t <;> decide

theorem name_injective : Function.Injective name := by
  intro t t'
  cases t <;> cases t' <;> decide

/-- Calls go by the names that are advertised. -/
theorem handlers_eq : handlers = all.map fun t => (t.name, t) := rfl

theorem ofName?_eq_some {t : Text} {tool : Tool} : ofName? t = some tool ↔ t = tool.name :=
  Text.registered?_eq_some handlers_eq name_injective mem_all

@[simp] theorem bind_ofName? (tool : Tool) :
    (Json.str tool.name).text?.bind ofName? = some tool :=
  ofName?_eq_some.mpr rfl

end Tool

theorem Resource.ofUri?_eq_none_iff {address : Text} :
    ofUri? address = none ↔ ∀ r : Resource, address ≠ r.uri := by
  rw [Option.eq_none_iff_forall_ne_some]
  exact forall_congr' fun r => not_congr ofUri?_eq_some

namespace Rpc

variable {s : Settings} {net : Http.Outcome} {m : Json} {method key : Text}

def Content.kind? : Content → Option ErrorKind
  | .result _ => none
  | .error kind _ => some kind

def Content.listed (collection key : Text) : Content → List Text
  | .result value =>
    match value.member? collection with
    | some (.arr items) => items.filterMap fun item => (item.member? key).bind Json.text?
    | _ => []
  | .error _ _ => []

def Asks (m : Json) (method : Text) : Prop := m.member? "method" = some (.str method)

theorem Asks.unique {method' : Text} (h : Asks m method) (h' : Asks m method') :
    method = method' := by
  rw [Asks, h] at h'
  exact Json.str.inj (Option.some.inj h')

def messageId (m : Json) : Json := (m.member? "id").getD .null

def argument? (m : Json) (key : Text) : Option Json := (m.member? "params").bind (·.member? key)

def content? (s : Settings) (net : Http.Outcome) (m : Json) : Option Content :=
  (handle s net m).value.map Reply.content

def errorKind? (s : Settings) (net : Http.Outcome) (m : Json) : Option ErrorKind :=
  (content? s net m).bind Content.kind?

def listedBy (s : Settings) (net : Http.Outcome) (method collection key : Text) : List Text :=
  ((content? s net (.obj [("method", .str method)])).map (Content.listed collection key)).getD []

theorem listed_tools :
    listedBy s net "tools/list" "tools" "name" = Tool.all.map fun t => Text.ofString t.name := rfl

theorem listed_resources : listedBy s net "resources/list" "resources" "uri" =
    Resource.all.map fun r => Text.ofString r.uri := rfl

/-! ## Messages and their parameters -/

theorem bind_text?_of_forall_not_asks (h : ∀ method, ¬ Asks m method) :
    (m.member? "method").bind Json.text? = none := by
  rw [Option.eq_none_iff_forall_ne_some]
  intro method hsome
  obtain ⟨value, hvalue, htext⟩ := Option.bind_eq_some_iff.mp hsome
  exact h method (by rw [Asks, hvalue, Json.text?_eq_some.mp htext])

theorem handle_eq_of_forall_not_asks (h : ∀ method, ¬ Asks m method) : handle s net m =
    pure (some ⟨messageId m, .error .invalidRequest "Invalid Request"⟩) := by
  cases m with
  | obj members =>
    have hmethod : (Json.find? members "method").bind Json.text? = none :=
      bind_text?_of_forall_not_asks h
    simp only [handle, hmethod]
    rfl
  | _ => rfl

theorem handle_of_forall_not_asks (h : ∀ method, ¬ Asks m method) : (handle s net m).value =
    some ⟨messageId m, .error .invalidRequest "Invalid Request"⟩ := by
  rw [handle_eq_of_forall_not_asks h, Traced.value_pure]

def params (m : Json) : Json :=
  match m.member? "params" with
  | some j => if j.isBlank then .obj [] else j
  | none => .obj []

theorem handle_eq_of_asks (h : Asks m method) : handle s net m =
    if method.startsWith notificationStart then do
      .log .debug (.concat ["Notification received: ", method])
      return none
    else do
      return some ⟨messageId m, ← answer s net method (params m)⟩ := by
  cases m with
  | obj members =>
    have hmethod : (Json.find? members "method").bind Json.text? = some method := by
      rw [show Json.find? members "method" = _ from h]
      rfl
    have hparams : filled members "params" = params (.obj members) := by
      rw [filled, params, Json.member?]
      cases Json.find? members "params" <;> rfl
    simp only [handle, hmethod, hparams]
    rfl
  | _ => exact absurd h (by simp [Asks, Json.member?])

theorem handle_of_asks (h : Asks m method) : (handle s net m).value =
    if method.startsWith notificationStart then none
    else some ⟨messageId m, (answer s net method (params m)).value⟩ := by
  rw [handle_eq_of_asks h]
  split <;> rfl

theorem member?_of_isBlank {j : Json} (h : j.isBlank = true) : j.member? key = none := by
  cases j with
  | obj members =>
    rw [Json.isBlank, List.isEmpty_iff] at h
    rw [h]
    rfl
  | _ => rfl

theorem parameter_params : parameter (params m) key = (argument? m key).getD .null := by
  rw [parameter, params, argument?]
  cases m.member? "params" with
  | none => rfl
  | some j =>
    by_cases hj : j.isBlank = true
    · simp only [hj, if_true, Option.bind_some, member?_of_isBlank hj]
      rfl
    · simp only [hj, Bool.false_eq_true, if_false, Option.bind_some]

theorem content?_of_asks (h : Asks m method)
    (hmethod : method.startsWith notificationStart = false) :
    content? s net m = some (answer s net method (params m)).value := by
  simp only [content?, handle_of_asks h, hmethod, Bool.false_eq_true, if_false]
  rfl

theorem errorKind?_of_asks (h : Asks m method)
    (hmethod : method.startsWith notificationStart = false) :
    errorKind? s net m = (answer s net method (params m)).value.kind? := by
  rw [errorKind?, content?_of_asks h hmethod, Option.bind_some]

theorem answer_callTool {members : List (Text × Json)} : answer s net "tools/call" (.obj members) =
    callTool s (parameter (.obj members) "name") (filled members "arguments") := rfl

theorem answer_readResource {params : Json} :
    answer s net "resources/read" params = readResource s net (parameter params "uri") := rfl

end Rpc

end ZigAdvisor
