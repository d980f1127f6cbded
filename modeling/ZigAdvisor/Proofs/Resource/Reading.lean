import ZigAdvisor.Proofs.Json.Shown
import ZigAdvisor.Proofs.Text.Word
import ZigAdvisor.Resource.Basic

/-!
# Reading resources

Three resources are fetched, the others are always at hand. A fetch fails unless the request meets
a successful response.

Reading a resource that is fetched sends one request, and whatever that meets, no other one; where
no request can be made, none is sent. Which request it is depends on the settings alone. A resource
that is at hand is read without any.
-/

namespace ZigAdvisor

def Http.Outcome.isSuccess : Http.Outcome → Bool
  | .response status _ => Http.Status.isSuccess status
  | .transportError _ | .crash _ => false

namespace Http

variable {net : Outcome}

theorem fetch_error (h : net.isSuccess = false) (request : Request) :
    ∃ fault, (fetch net request).value = .error fault := by
  cases net with
  | response status body =>
    rw [Outcome.isSuccess] at h
    simp only [fetch, Traced.value_bind, h, Bool.false_eq_true, if_false]
    split
    · exact ⟨_, rfl⟩
    · exact ⟨_, rfl⟩
  | transportError message => exact ⟨_, rfl⟩
  | crash message => exact ⟨_, rfl⟩

end Http

namespace Resource

variable {s : Settings} {net : Http.Outcome}

theorem documentation_error (h : net.isSuccess = false) (page : DocSection) :
    ∃ fault, (page.fetch s net).value = .error fault := by
  rw [DocSection.fetch]
  simp only [Traced.value_bind]
  split
  · exact ⟨_, rfl⟩
  · next address _ =>
    obtain ⟨fault, hfault⟩ := Http.fetch_error h (DocSection.request s address)
    simp only [Traced.value_bind, hfault]
    cases fault <;> exact ⟨_, rfl⟩

theorem search_error (h : net.isSuccess = false) :
    ∃ fault, (Repositories.search s net).value = .error fault := by
  rw [Repositories.search]
  split
  · exact ⟨_, rfl⟩
  · split
    · exact ⟨_, rfl⟩
    · next url _ =>
      obtain ⟨fault, hfault⟩ := Http.fetch_error h (Repositories.request s url)
      simp only [Traced.value_bind, hfault]
      exact ⟨_, rfl⟩

theorem repositories_error (h : net.isSuccess = false) :
    ∃ fault, (Repositories.fetch s net).value = .error fault := by
  obtain ⟨fault, hfault⟩ := search_error (s := s) h
  simp only [Repositories.fetch, Traced.value_bind, hfault]
  cases fault <;> exact ⟨_, rfl⟩

def remote : List Resource := [documentation .language, documentation .std, repositories]

theorem read_error {r : Resource} (hr : r ∈ remote) (h : net.isSuccess = false) :
    ∃ fault, (r.read s net).value = .error fault := by
  fin_cases hr
  · exact documentation_error h .language
  · exact documentation_error h .std
  · exact repositories_error h

/-- Only a fetch fails. -/
theorem mem_remote_of_read_error {r : Resource} {fault : FetchFault}
    (h : (r.read s net).value = .error fault) : r ∈ remote := by
  cases r with
  | documentation page => cases page <;> decide
  | repositories => decide
  | practices => exact absurd h (by simp [read])
  | troubleshooting => exact absurd h (by simp [read])
  | examples => exact absurd h (by simp [read])

theorem mem_all (r : Resource) : r ∈ all := by
  cases r with
  | documentation page => cases page <;> decide
  | repositories => decide
  | practices => decide
  | troubleshooting => decide
  | examples => decide

theorem uri_injective : Function.Injective uri := by
  intro r r'
  rcases r with (_ | _) | _ | _ | _ | _ <;> rcases r' with (_ | _) | _ | _ | _ | _ <;> decide

/-- The addresses that can be read are those that are advertised. -/
theorem readers_eq : readers = all.map fun r => (r.uri, r) := rfl

theorem ofUri?_eq_some {address : Text} {r : Resource} :
    ofUri? address = some r ↔ address = r.uri :=
  Text.registered?_eq_some readers_eq uri_injective mem_all

/-- What can be read is advertised, so it has a type. -/
theorem advertisedType?_of_ofUri? {address : Text} {r : Resource} (h : ofUri? address = some r) :
    advertisedType? address = some r.mimeType := by
  rw [advertisedType?, (Text.find?_ofString_eq_some uri_injective mem_all).mpr
    (ofUri?_eq_some.mp h), Option.map_some]

end Resource

/-! ## Requests -/

variable {s : Settings} {net : Http.Outcome}

theorem Http.requests_fetch (request : Http.Request) :
    (Http.fetch net request).requests = [request.withCredentials] := by
  simp only [Http.fetch, Traced.requests_bind, Traced.requests_send]
  split
  · split
    · rfl
    · split_ifs <;> rfl
  · rfl
  · rfl

namespace DocSection

def request? (s : Settings) (page : DocSection) : Option Http.Request :=
  (Http.Url.ofRequested (page.url s) none).toOption.map fun url =>
    (request s url).withCredentials

theorem requests_fetch (page : DocSection) :
    (page.fetch s net).requests = (page.request? s).toList := by
  rw [fetch, request?]
  simp only [Traced.requests_bind, Traced.requests_log, List.nil_append]
  cases Http.Url.ofRequested (page.url s) none with
  | error fault => rfl
  | ok url =>
    simp only [Traced.requests_bind, Http.requests_fetch]
    split <;> rfl

end DocSection

namespace Repositories

def request? (s : Settings) : Option Http.Request :=
  if (authorization s).all Text.isAscii then
    (Http.Url.ofRequested (searchUrl s) (some (query s))).toOption.map fun url =>
      (request s url).withCredentials
  else none

theorem asciiFault?_authorization : (authorization s).bind Text.asciiFault? = none ↔
    (authorization s).all Text.isAscii = true := by
  cases authorization s with
  | none => simp
  | some value => simp [Text.asciiFault?_eq_none_iff]

theorem requests_search : (search s net).requests = (request? s).toList := by
  rw [search, request?]
  split
  · next message hmessage =>
    have hfault : ¬ (authorization s).all Text.isAscii = true := by
      rw [← asciiFault?_authorization, hmessage]
      simp
    rw [if_neg hfault]
    rfl
  · next hascii =>
    rw [if_pos (asciiFault?_authorization.mp hascii)]
    cases Http.Url.ofRequested (searchUrl s) (some (query s)) with
    | error fault => rfl
    | ok url =>
      simp only [Traced.requests_bind, Http.requests_fetch]
      split <;> rfl

theorem requests_fetch : (fetch s net).requests = (request? s).toList := by
  rw [fetch]
  simp only [Traced.requests_bind, Traced.requests_log, List.nil_append, requests_search]
  split
  · simp
  · simp
  · split <;> simp

end Repositories

namespace Resource

def request? (s : Settings) : Resource → Option Http.Request
  | documentation page => page.request? s
  | repositories => Repositories.request? s
  | practices | troubleshooting | examples => none

/-- Reading a resource sends its request and no other one, whatever that meets. -/
theorem requests_read (r : Resource) : (r.read s net).requests = (r.request? s).toList := by
  cases r with
  | documentation page => exact page.requests_fetch
  | repositories => exact Repositories.requests_fetch
  | practices => rfl
  | troubleshooting => rfl
  | examples => rfl

theorem mem_remote_of_request? {r : Resource} {request : Http.Request}
    (h : r.request? s = some request) : r ∈ remote := by
  cases r with
  | documentation page => cases page <;> decide
  | repositories => decide
  | _ => cases h

end Resource

/-- Whether requests can be made to the addresses that the settings name. -/
structure Settings.Reaches (s : Settings) : Prop where
  documentation : ∀ page : DocSection, ∃ url, Http.Url.ofRequested (page.url s) none = .ok url
  repositories : ∃ url, Http.Url.ofRequested (Repositories.searchUrl s)
    (some (Repositories.query s)) = .ok url

def Settings.withToken (s : Settings) (token : Text) : Settings :=
  { s with githubToken := some token }

@[simp] theorem Settings.nesting_withToken (s : Settings) (token : Text) :
    (s.withToken token).nesting = s.nesting := rfl

theorem Settings.Reaches.withToken (h : s.Reaches) (token : Text) : (s.withToken token).Reaches where
  documentation := h.documentation
  repositories := h.repositories

theorem Settings.reaches_standard : Reaches .standard where
  documentation page := by cases page <;> exact ⟨_, rfl⟩
  repositories := ⟨_, rfl⟩

theorem Repositories.isAscii_authorization (h : ∀ token ∈ s.githubToken, token.isAscii = true) :
    (authorization s).all Text.isAscii = true := by
  rw [Option.all_eq_true]
  intro value hvalue
  obtain ⟨token, htoken, rfl⟩ := Option.map_eq_some_iff.mp hvalue
  have hascii := h token (Option.filter_eq_some_iff.mp htoken).1
  rw [Text.isAscii] at hascii ⊢
  rw [Text.concat_cons, Text.concat_cons, Text.concat_nil, List.append_nil, List.all_append, hascii,
    Bool.and_true]
  rfl

theorem Resource.isSome_request?_iff (h : s.Reaches)
    (htoken : ∀ token ∈ s.githubToken, token.isAscii = true) {r : Resource} :
    (r.request? s).isSome = true ↔ r ∈ remote := by
  refine ⟨fun hsome => ?_, fun hr => ?_⟩
  · obtain ⟨request, hrequest⟩ := Option.isSome_iff_exists.mp hsome
    exact mem_remote_of_request? hrequest
  · cases r with
    | documentation page =>
      obtain ⟨url, hurl⟩ := h.documentation page
      simp [request?, DocSection.request?, hurl, Except.toOption]
    | repositories =>
      obtain ⟨url, hurl⟩ := h.repositories
      simp [request?, Repositories.request?, Repositories.isAscii_authorization htoken, hurl,
        Except.toOption]
    | _ => exact absurd hr (by decide)

end ZigAdvisor
