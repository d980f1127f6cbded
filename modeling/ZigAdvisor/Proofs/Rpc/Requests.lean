import ZigAdvisor.Proofs.Resource.Reading
import ZigAdvisor.Proofs.Rpc.Sessions
import ZigAdvisor.Proofs.Service.Outcomes

/-!
# Which messages send requests

A message sends a request exactly if it asks to read a resource that is fetched, and then one. What
a request meets makes no difference to what is sent, so a fetch that fails is not repeated: the
requests of a session are those of its messages, each by itself.
-/

namespace ZigAdvisor

theorem Traced.requests_mapM {α β : Type} (f : α → Traced β) (items : List α) :
    (items.mapM f).requests = items.flatMap fun a => (f a).requests := by
  induction items with
  | nil => rfl
  | cons a items ih =>
    rw [List.mapM_cons]
    simp only [requests_bind, requests_pure, List.append_nil, ih, List.flatMap_cons]

theorem Json.member?_eq_some {m value : Json} {key : Text} : m.member? key = some value ↔
    ∃ members, m = .obj members ∧ find? members key = some value := by
  cases m <;> simp [member?]

namespace Rpc

variable {s : Settings} {net : Http.Outcome} {m : Json} {method line : Text}
  {v : Http.Outcome × Text} {vs : List (Http.Outcome × Text)}

/-! ## Tools -/

theorem requests_chosenMode (requested : Option Json) :
    (Tool.chosenMode requested).requests = [] := by
  unfold Tool.chosenMode
  split
  · rfl
  · rfl
  · split <;> rfl

theorem requests_recommend (classifiers : List Classifier) (code prompt : Text) :
    (Tool.recommend classifiers code prompt).requests = [] := by
  simp only [Tool.recommend, Traced.requests_bind, Traced.requests_mapM, Traced.requests_pure,
    Classifier.reviewTraced, Traced.requests_log, List.append_nil, List.flatMap_eq_nil_iff,
    implies_true]

theorem requests_run {tool : Tool} {args : Arguments} {y : Traced Text}
    (h : tool.run s args = .ok y) : y.requests = [] := by
  cases tool with
  | optimizeCode =>
    obtain ⟨code, -, rfl⟩ := Except.map_eq_ok.mp h
    simp only [Tool.optimize, Traced.requests_bind, requests_chosenMode]
    rfl
  | getRecommendations =>
    obtain ⟨code, -, rfl⟩ := Except.map_eq_ok.mp h
    exact requests_recommend _ code _
  | _ =>
    obtain ⟨checked, -, rfl⟩ := Except.map_eq_ok.mp h
    rfl

theorem requests_callTool (name arguments : Json) :
    (callTool s name arguments).requests = [] := by
  unfold callTool
  split
  · rfl
  · next tool _ =>
    split
    · next args =>
      have hcall : (tool.call s args).requests = [] := by
        unfold Tool.call
        split
        · rfl
        · next hrun =>
          simp only [Traced.requests_bind, requests_run hrun]
          rfl
      simp only [Traced.requests_bind, hcall, List.nil_append]
      split <;> rfl
    · rfl

/-! ## Messages -/

def resourceAt? (uri : Json) : Option Resource := uri.text?.bind Resource.ofUri?

theorem resourceAt?_eq_some {uri : Json} {r : Resource} :
    resourceAt? uri = some r ↔ uri = .str r.uri := by
  rw [resourceAt?, Option.bind_eq_some_iff]
  constructor
  · rintro ⟨t, ht, hr⟩
    rw [Json.text?_eq_some.mp ht, Resource.ofUri?_eq_some.mp hr]
  · rintro rfl
    exact ⟨r.uri, rfl, Resource.ofUri?_eq_some.mpr rfl⟩

theorem requests_readResource (uri : Json) : (readResource s net uri).requests =
    ((resourceAt? uri).bind (Resource.request? s)).toList := by
  cases uri with
  | str address =>
    have hat : resourceAt? (.str address) = Resource.ofUri? address := rfl
    rw [readResource, hat]
    cases Resource.ofUri? address with
    | none => rfl
    | some r =>
      simp only [Traced.requests_bind, Resource.requests_read, Option.bind_some]
      split <;> exact List.append_nil _
  | _ => rfl

def asked? (m : Json) : Option Resource :=
  match (m.member? "method").bind Json.text? with
  | some method =>
    if method = "resources/read" then (argument? m "uri").bind resourceAt? else none
  | none => none

def request? (s : Settings) (m : Json) : Option Http.Request :=
  (asked? m).bind (Resource.request? s)

theorem asked?_of_asks (h : Asks m method) :
    asked? m = if method = "resources/read" then (argument? m "uri").bind resourceAt? else none := by
  rw [asked?, show m.member? "method" = _ from h]
  rfl

theorem requests_answer (params : Json) : (answer s net method params).requests =
    if method = "resources/read" then
      ((resourceAt? (parameter params "uri")).bind (Resource.request? s)).toList
    else [] := by
  split_ifs with hmethod
  · rw [hmethod, answer_readResource, requests_readResource]
  · unfold answer
    split_ifs
    · rfl
    · rfl
    · rfl
    · split
      · exact requests_callTool _ _
      · rfl
    · rfl
    · rfl

/-- A message sends its request and no other one, whatever that meets. -/
theorem requests_handle (m : Json) : (handle s net m).requests = (request? s m).toList := by
  by_cases h : ∃ method, Asks m method
  · obtain ⟨method, hmethod⟩ := h
    rw [handle_eq_of_asks hmethod, request?, asked?_of_asks hmethod]
    split_ifs with hstart hread hread
    · -- The method that reads resources is no notification.
      rw [hread] at hstart
      exact absurd hstart (by decide)
    · rfl
    · have huri : resourceAt? (parameter (params m) "uri") =
          (argument? m "uri").bind resourceAt? := by
        rw [parameter_params]
        cases argument? m "uri" <;> rfl
      simp only [Traced.requests_bind, requests_answer, hread, if_true, huri]
      exact List.append_nil _
    · simp only [Traced.requests_bind, requests_answer, hread, if_false]
      rfl
  · rw [handle_eq_of_forall_not_asks (not_exists.mp h), request?, asked?,
      bind_text?_of_forall_not_asks (not_exists.mp h)]
    rfl

/-- Whether a message is an object that asks to read a resource and names, in parameters that are
an object, one that is fetched. -/
def ReadsRemote (m : Json) : Prop :=
  ∃ members params, m = .obj members ∧
    Json.find? members "method" = some (.str "resources/read") ∧
    Json.find? members "params" = some (.obj params) ∧
    ∃ r ∈ Resource.remote, Json.find? params "uri" = some (.str r.uri)

theorem asked?_eq_some {r : Resource} : asked? m = some r ↔
    Asks m "resources/read" ∧ argument? m "uri" = some (.str r.uri) := by
  constructor
  · intro h
    rw [asked?] at h
    split at h
    · next method hmethod =>
      split_ifs at h with hread
      obtain ⟨value, hvalue, htext⟩ := Option.bind_eq_some_iff.mp hmethod
      obtain ⟨uri, huri, hr⟩ := Option.bind_eq_some_iff.mp h
      rw [Asks, hvalue, Json.text?_eq_some.mp htext, hread, huri, resourceAt?_eq_some.mp hr]
      exact ⟨rfl, rfl⟩
    · cases h
  · rintro ⟨hread, huri⟩
    rw [asked?_of_asks hread, if_pos rfl, huri]
    exact resourceAt?_eq_some.mpr rfl

theorem readsRemote_iff : ReadsRemote m ↔ ∃ r ∈ Resource.remote, asked? m = some r := by
  simp only [asked?_eq_some, Asks, argument?, Option.bind_eq_some_iff, Json.member?_eq_some]
  constructor
  · rintro ⟨members, params, rfl, hmethod, hparams, r, hr, huri⟩
    exact ⟨r, hr, ⟨members, rfl, hmethod⟩, .obj params, ⟨members, rfl, hparams⟩, params, rfl, huri⟩
  · rintro ⟨r, hr, ⟨members, rfl, hmethod⟩, _, ⟨_, hm, hparams⟩, params, rfl, huri⟩
    cases hm
    exact ⟨members, params, rfl, hmethod, hparams, r, hr, huri⟩

theorem readsRemote_of_request? {request : Http.Request} (h : request? s m = some request) :
    ReadsRemote m := by
  obtain ⟨r, hr, hrequest⟩ := Option.bind_eq_some_iff.mp h
  exact readsRemote_iff.mpr ⟨r, Resource.mem_remote_of_request? hrequest, hr⟩

/-! ## Sessions -/

inductive Arrival
  | line (text : Text)
  | message (m : Json)

namespace Arrival

def message? (s : Settings) : Arrival → Option Json
  | .line text => (Json.parseText (Text.trim text) s.nesting.lines).toOption
  | .message m => some m

def request? (s : Settings) (a : Arrival) : Option Http.Request :=
  (a.message? s).bind (Rpc.request? s)

/-- Handles an arrival; an error is one of a line beyond the limits of the reader. -/
def handle (s : Settings) (net : Http.Outcome) :
    Arrival → Traced (Except Json.Fault (Option Reply))
  | .line text => handleLine s net text
  | .message m => do return .ok (← Rpc.handle s net m)

theorem requests_handle (a : Arrival) : (a.handle s net).requests = (a.request? s).toList := by
  cases a with
  | line text =>
    unfold handle handleLine
    dsimp only
    split_ifs with hblank
    · rw [request?, message?, List.isEmpty_iff.mp hblank, Json.parseText_nil]
      rfl
    · rw [request?, message?]
      cases Json.parseText (Text.trim text) s.nesting.lines with
      | ok m =>
        simp only [Traced.requests_bind, Rpc.requests_handle]
        exact List.append_nil _
      | error fault => cases fault <;> rfl
  | message m =>
    simp only [handle, Traced.requests_bind, Rpc.requests_handle]
    exact List.append_nil _

end Arrival

/-- Handles arrivals one after the other, each with what a request meets that is sent for it. -/
def converse (s : Settings) (arrivals : List (Http.Outcome × Arrival)) :
    Traced (List (Except Json.Fault (Option Reply))) :=
  arrivals.mapM fun a => a.2.handle s a.1

theorem requests_converse (arrivals : List (Http.Outcome × Arrival)) :
    (converse s arrivals).requests = arrivals.filterMap fun a => a.2.request? s := by
  rw [converse, Traced.requests_mapM, List.filterMap_eq_flatMap_toList]
  simp only [Arrival.requests_handle]

theorem requests_answerLine :
    (answerLine s net line).requests = ((Arrival.line line).request? s).toList := by
  have hline : (handleLine s net line).requests = ((Arrival.line line).request? s).toList :=
    Arrival.requests_handle (.line line)
  unfold answerLine
  rw [Traced.requests_bind, hline]
  split <;> exact List.append_nil _

/-- A line that ends the session is no message. -/
theorem request?_of_not_handled (h : handled s v = false) :
    (Arrival.line v.2).request? s = none := by
  unfold handled handleLine at h
  dsimp only at h
  split_ifs at h with hblank
  · cases h
  · rw [Arrival.request?, Arrival.message?]
    cases hparse : Json.parseText (Text.trim v.2) s.nesting.lines with
    | ok m =>
      rw [hparse] at h
      cases h
    | error fault => rfl

theorem requests_handleLines : (handleLines s vs).requests =
    (vs.takeWhile (handled s)).filterMap fun v => (Arrival.line v.2).request? s := by
  induction vs with
  | nil => rfl
  | cons v vs ih =>
    obtain ⟨net, line⟩ := v
    have hvalue := value_answerLine (s := s) (v := (net, line))
    rw [handleLines, Traced.requests_bind, hvalue, requests_answerLine]
    cases h : handled s (net, line) with
    | true =>
      rw [List.takeWhile_cons_of_pos h, List.filterMap_cons]
      simp only [if_true, Traced.requests_bind, Traced.requests_pure, List.append_nil, ih]
      cases (Arrival.line line).request? s <;> rfl
    | false =>
      rw [List.takeWhile_cons_of_neg (by simp [h]), request?_of_not_handled h]
      rfl

theorem requests_session (nets : ℕ → Http.Outcome) (input : Text) :
    (session s nets input).requests =
      ((visits nets input).takeWhile (handled s)).filterMap fun v =>
        (Arrival.line v.2).request? s :=
  requests_handleLines

/-! ## Fetches that send a request -/

theorem isSome_request?_iff (h : s.Reaches)
    (htoken : ∀ token ∈ s.githubToken, token.isAscii = true) :
    (request? s m).isSome = true ↔ ReadsRemote m := by
  rw [readsRemote_iff, request?, Option.isSome_bind]
  simp only [Option.any_eq_true, Resource.isSome_request?_iff h htoken]
  exact exists_congr fun r => and_comm

/-- A message sends at most one request, and none unless it asks to read a resource that is fetched.
Where every fetch sends a request, because requests can be made to the addresses of the settings and
the token is in ASCII, each such message sends one. The requests of a session are those of its
arrivals, whatever they meet, so none is sent again. -/
theorem requests_of_arrivals (s : Settings) :
    (∀ net m, (handle s net m).requests.length ≤ 1) ∧
    (∀ net m, ¬ ReadsRemote m → (handle s net m).requests = []) ∧
    (s.Reaches → (∀ token ∈ s.githubToken, token.isAscii = true) →
      (∀ net m, (handle s net m).requests.length = 1 ↔ ReadsRemote m) ∧
      ∀ a : Arrival, (a.request? s).isSome = true ↔ ∃ m, a.message? s = some m ∧ ReadsRemote m) ∧
    (∀ net (a : Arrival), (a.handle s net).requests = (a.request? s).toList) ∧
    (∀ arrivals : List (Http.Outcome × Arrival),
      (converse s arrivals).requests = arrivals.filterMap fun a => a.2.request? s) ∧
    (∀ nets input, (session s nets input).requests =
      ((visits nets input).takeWhile (handled s)).filterMap fun v =>
        (Arrival.line v.2).request? s) := by
  refine ⟨fun net m => ?_, fun net m hm => ?_, fun h htoken => ⟨fun net m => ?_, fun a => ?_⟩,
    fun net a => a.requests_handle, requests_converse, requests_session⟩
  · rw [requests_handle]
    exact Option.length_toList_le
  · rw [requests_handle, Option.eq_none_iff_forall_ne_some.mpr fun _ hsome =>
      hm (readsRemote_of_request? hsome)]
    rfl
  · rw [requests_handle, ← isSome_request?_iff h htoken]
    cases request? s m <;> simp
  · rw [Arrival.request?, Option.isSome_bind]
    simp only [Option.any_eq_true, isSome_request?_iff h htoken]

/-- A page that cannot be had is fetched as often as it is asked for. -/
theorem requests_of_arrivals_twice :
    let s := Settings.standard.withToken "ghp_0123"
    let net : Http.Outcome := .crash "reset"
    let m : Json := .obj [("method", .str "resources/read"),
      ("params", .obj [("uri", .str "zig://docs/std-lib")])]
    (s.Reaches ∧ ∀ token ∈ s.githubToken, token.isAscii = true) ∧
      (handle s net m).requests.length = 1 ∧
      (converse s [(net, .message m), (net, .message m)]).requests.length = 2 := by
  intro s net m
  have h : s.Reaches := Settings.reaches_standard.withToken _
  have htoken : ∀ token ∈ s.githubToken, token.isAscii = true := by
    rintro token ⟨⟩
    rfl
  have hread : ReadsRemote m := ⟨_, _, rfl, rfl, rfl, .documentation .std, by decide, rfl⟩
  obtain ⟨-, -, hreached, -, hconverse, -⟩ := requests_of_arrivals s
  obtain ⟨hone, hsome⟩ := hreached h htoken
  obtain ⟨request, hrequest⟩ := Option.isSome_iff_exists.mp
    ((hsome (.message m)).mpr ⟨m, rfl, hread⟩)
  refine ⟨⟨h, htoken⟩, (hone net m).mpr hread, ?_⟩
  rw [hconverse]
  simp [hrequest]

end Rpc

end ZigAdvisor
