import ZigAdvisor.Proofs.Json.Printable
import ZigAdvisor.Proofs.Rpc.Requests

/-!
# The token is not told

Two servers that differ in their tokens alone answer alike and write the same records, whatever
reaches them and whatever their requests meet. Of their requests only the searches differ, and these
in one header. A request for a page carries what its address holds of a name and a password, and
nothing else.
-/

namespace ZigAdvisor

variable {α β : Type}

/-! ## Results that are alike -/

namespace Traced

/-- Whether two results have the same value and the same records, and each request of the one stands
to that of the other in a relation. -/
structure Alike (R : Http.Request → Http.Request → Prop) (x y : Traced α) : Prop where
  value : x.value = y.value
  records : x.records = y.records
  requests : List.Forall₂ R x.requests y.requests

variable {R : Http.Request → Http.Request → Prop} {x y : Traced α}

theorem alike_self (h : x.requests = []) : Alike R x x where
  value := rfl
  records := rfl
  requests := by
    rw [h]
    exact .nil

theorem alike_pure (a : α) : Alike R (pure a) (pure a) := alike_self rfl

theorem alike_log (level : LogLevel) (message : Text) :
    Alike R (log level message) (log level message) := alike_self rfl

theorem Alike.bind {f g : α → Traced β} (h : Alike R x y) (hf : ∀ a, Alike R (f a) (g a)) :
    Alike R (x >>= f) (y >>= g) where
  value := by
    rw [value_bind, value_bind, h.value]
    exact (hf _).value
  records := by
    rw [records_bind, records_bind, h.value, h.records, (hf _).records]
  requests := by
    rw [requests_bind, requests_bind, h.value]
    exact List.rel_append h.requests (hf _).requests

theorem alike_mapM {f g : α → Traced β} {items : List α} (h : ∀ a, Alike R (f a) (g a)) :
    Alike R (items.mapM f) (items.mapM g) := by
  induction items with
  | nil => exact alike_pure _
  | cons a items ih =>
    rw [List.mapM_cons, List.mapM_cons]
    exact (h a).bind fun b => ih.bind fun bs => alike_pure _

end Traced

open Traced (Alike alike_self alike_pure alike_log alike_mapM)

/-! ## Requests with tokens -/

namespace Http

variable {request request' : Request}

/-- The name and password of an address come before a token. -/
theorem Request.withCredentials_eq : request.withCredentials =
    { request with authorization := request.url.credentials?.or request.authorization } := by
  rw [withCredentials]
  cases request.url.credentials? <;> rfl

theorem alike_fetch {R : Request → Request → Prop} {net : Outcome} (hurl : request.url = request'.url)
    (h : R request.withCredentials request'.withCredentials) :
    Alike R (fetch net request) (fetch net request') := by
  unfold fetch
  rw [hurl]
  refine Alike.bind ⟨rfl, rfl, .cons h .nil⟩ fun _ => alike_self ?_
  split
  · split
    · rfl
    · split_ifs <;> rfl
  · rfl
  · rfl

end Http

/-- Two requests of servers that differ in their tokens: a request for a page is the same, with no
header for authorization but what its address holds of a name and a password; two searches differ in
that header alone, and only if their address holds none. -/
inductive TokenApart (s : Settings) (t t' : Text) : Http.Request → Http.Request → Prop
  | documentation {page : DocSection} {request : Http.Request}
      (haddress : Http.Url.ofRequested (page.url s) none = .ok request.url)
      (hheader : request.authorization = request.url.credentials?) :
      TokenApart s t t' request request
  | search {request : Http.Request}
      (haddress : Http.Url.ofRequested (Repositories.searchUrl s) (some (Repositories.query s)) =
        .ok request.url)
      (hheader : request.authorization = request.url.credentials?.or (some ("token " ++ t))) :
      TokenApart s t t' request
        { request with authorization := request.url.credentials?.or (some ("token " ++ t')) }

structure IsToken (t : Text) : Prop where
  nonempty : t ≠ []
  printable : Text.Printable t

variable {s : Settings} {t t' : Text} {net : Http.Outcome}

theorem IsToken.authorization (h : IsToken t) :
    Repositories.authorization (s.withToken t) = some ("token " ++ t) := by
  simp [Repositories.authorization, Settings.withToken, h.nonempty]

theorem IsToken.isAscii (h : IsToken t) : t.isAscii = true :=
  List.all_eq_true.mpr fun c hc => (h.printable c hc).isAscii

/-! ## Fetches -/

theorem DocSection.tokenApart {page : DocSection} {address : Http.Url}
    (h : Http.Url.ofRequested (page.url s) none = .ok address) :
    TokenApart s t t' (request s address).withCredentials (request s address).withCredentials := by
  rw [Http.Request.withCredentials_eq]
  exact .documentation h Option.or_none

theorem DocSection.alike_fetch (page : DocSection) :
    Alike (TokenApart s t t') (page.fetch s net) (page.fetch s net) := by
  unfold fetch
  refine (alike_log _ _).bind fun _ => ?_
  split
  · exact alike_pure _
  · next address haddress =>
    refine (Http.alike_fetch rfl (tokenApart haddress)).bind fun body => ?_
    split
    · exact alike_pure _
    · exact (alike_log _ _).bind fun _ => alike_pure _
    · exact alike_pure _

namespace Repositories

theorem withCredentials_request (h : IsToken t) (address : Http.Url) :
    (request (s.withToken t) address).withCredentials =
      { request s address with
        authorization := address.credentials?.or (some ("token " ++ t)) } := by
  rw [Http.Request.withCredentials_eq, request, h.authorization]
  rfl

theorem tokenApart (ht : IsToken t) (ht' : IsToken t') {address : Http.Url}
    (h : Http.Url.ofRequested (searchUrl s) (some (query s)) = .ok address) :
    TokenApart s t t' (request (s.withToken t) address).withCredentials
      (request (s.withToken t') address).withCredentials := by
  rw [withCredentials_request ht, withCredentials_request ht']
  exact .search h rfl

theorem asciiFault?_withToken (h : IsToken t) :
    (authorization (s.withToken t)).bind Text.asciiFault? = none := by
  rw [asciiFault?_authorization]
  refine isAscii_authorization ?_
  rintro token ⟨⟩
  exact h.isAscii

theorem alike_search (ht : IsToken t) (ht' : IsToken t') :
    Alike (TokenApart s t t') (search (s.withToken t) net) (search (s.withToken t') net) := by
  have haddress (t : Text) : Http.Url.ofRequested (searchUrl (s.withToken t))
      (some (query (s.withToken t))) =
        Http.Url.ofRequested (searchUrl s) (some (query s)) := rfl
  simp only [search, asciiFault?_withToken ht, asciiFault?_withToken ht', haddress]
  split
  · exact alike_pure _
  · next address hrequested =>
    have hfetch : Alike (TokenApart s t t') (Http.fetch net (request (s.withToken t) address))
        (Http.fetch net (request (s.withToken t') address)) :=
      Http.alike_fetch rfl (tokenApart ht ht' hrequested)
    refine hfetch.bind fun body => ?_
    split <;> exact alike_pure _

theorem alike_fetch (ht : IsToken t) (ht' : IsToken t') :
    Alike (TokenApart s t t') (fetch (s.withToken t) net) (fetch (s.withToken t') net) := by
  refine (alike_log _ _).bind fun _ => (alike_search ht ht').bind fun answer => alike_self ?_
  split
  · rfl
  · rfl
  · split <;> rfl

end Repositories

theorem Resource.alike_read (ht : IsToken t) (ht' : IsToken t') (r : Resource) :
    Alike (TokenApart s t t') (r.read (s.withToken t) net) (r.read (s.withToken t') net) := by
  cases r with
  | documentation page => exact page.alike_fetch
  | repositories => exact Repositories.alike_fetch ht ht'
  | practices => exact alike_pure _
  | troubleshooting => exact alike_pure _
  | examples => exact alike_pure _

/-! ## Messages -/

theorem Tool.call_withToken (tool : Tool) (args : Arguments) :
    tool.call (s.withToken t) args = tool.call s args := by
  cases tool <;> rfl

namespace Rpc

variable (ht : IsToken t) (ht' : IsToken t')

theorem callTool_withToken (name arguments : Json) :
    callTool (s.withToken t) name arguments = callTool s name arguments := by
  simp only [callTool, Tool.call_withToken]

include ht ht'

theorem alike_readResource (uri : Json) : Alike (TokenApart s t t')
    (readResource (s.withToken t) net uri) (readResource (s.withToken t') net uri) := by
  unfold readResource
  split
  · split
    · exact alike_pure _
    · next r _ =>
      refine (r.alike_read ht ht').bind fun text => ?_
      split
      · exact alike_pure _
      · exact alike_pure _
      · exact (alike_log _ _).bind fun _ => alike_pure _
  · exact alike_pure _

theorem alike_answer (method : Text) (params : Json) : Alike (TokenApart s t t')
    (answer (s.withToken t) net method params) (answer (s.withToken t') net method params) := by
  unfold answer
  split_ifs
  · exact alike_pure _
  · exact alike_pure _
  · exact alike_pure _
  · simp only [callTool_withToken]
    split
    · exact alike_self (requests_callTool _ _)
    · exact alike_pure _
  · exact alike_pure _
  · exact alike_readResource ht ht' _
  · exact alike_pure _

theorem alike_handle (m : Json) : Alike (TokenApart s t t')
    (handle (s.withToken t) net m) (handle (s.withToken t') net m) := by
  unfold handle
  split
  · split
    · exact alike_pure _
    · split
      · exact (alike_log _ _).bind fun _ => alike_pure _
      · exact (alike_answer ht ht' _ _).bind fun _ => alike_pure _
  · exact alike_pure _

theorem alike_handleLine (line : Text) : Alike (TokenApart s t t')
    (handleLine (s.withToken t) net line) (handleLine (s.withToken t') net line) := by
  unfold handleLine
  simp only [Settings.nesting_withToken]
  split
  · exact alike_pure _
  · split
    · exact (alike_handle ht ht' _).bind fun _ => alike_pure _
    · exact (alike_log _ _).bind fun _ => alike_pure _
    · exact alike_pure _

/-! ## Sessions -/

theorem alike_converse (arrivals : List (Http.Outcome × Arrival)) : Alike (TokenApart s t t')
    (converse (s.withToken t) arrivals) (converse (s.withToken t') arrivals) := by
  refine alike_mapM fun a => ?_
  obtain ⟨net, _ | _⟩ := a
  · exact alike_handleLine ht ht' _
  · exact (alike_handle ht ht' _).bind fun _ => alike_pure _

theorem alike_handleLines (vs : List (Http.Outcome × Text)) : Alike (TokenApart s t t')
    (handleLines (s.withToken t) vs) (handleLines (s.withToken t') vs) := by
  induction vs with
  | nil => exact (alike_log _ _).bind fun _ => alike_pure _
  | cons v vs ih =>
    obtain ⟨net, line⟩ := v
    have hanswer : Alike (TokenApart s t t') (answerLine (s.withToken t) net line)
        (answerLine (s.withToken t') net line) := by
      refine (alike_handleLine ht ht' line).bind fun reply => ?_
      split
      · exact (alike_log _ _).bind fun _ => alike_pure _
      · exact alike_pure _
    -- Both sessions end at this line or neither does.
    refine hanswer.bind fun written => ?_
    split
    · exact alike_pure _
    · exact ih.bind fun _ => alike_pure _

end Rpc

/-- Of a token its presence alone is told. -/
theorem Settings.summary_withToken : (s.withToken t).summary = (s.withToken t').summary := rfl

theorem Rpc.alike_session (ht : IsToken t) (ht' : IsToken t') (nets : ℕ → Http.Outcome)
    (input : Text) : Alike (TokenApart s t t')
      (session (s.withToken t) nets input) (session (s.withToken t') nets input) := by
  have hsummary : (s.withToken t).summary = (s.withToken t').summary := Settings.summary_withToken
  refine Alike.bind ?_ fun _ => alike_handleLines ht ht' _
  rw [opening, opening, hsummary]
  exact (alike_log _ _).bind fun _ => alike_log _ _

namespace Rpc

/-- Two servers that differ in their tokens tell the same of their settings, and every session goes
alike: one of arrivals that are handled one by one, and one of an input that is read to its end or
to a line that ends the session. -/
theorem sessions_alike (s : Settings) (ht : IsToken t) (ht' : IsToken t') :
    (s.withToken t).summary = (s.withToken t').summary ∧
    (∀ arrivals : List (Http.Outcome × Arrival), Alike (TokenApart s t t')
      (converse (s.withToken t) arrivals) (converse (s.withToken t') arrivals)) ∧
    (∀ nets input, Alike (TokenApart s t t')
      (session (s.withToken t) nets input) (session (s.withToken t') nets input)) :=
  ⟨Settings.summary_withToken, alike_converse ht ht', alike_session ht ht'⟩

/-- A search that is refused for its token. -/
theorem sessions_alike_refused :
    let search : Arrival := .message (.obj [("method", .str "resources/read"),
      ("params", .obj [("uri", .str "zig://repos/popular")])])
    let told (token : Text) := converse (Settings.standard.withToken token)
      [(.response 401 [], search)]
    (IsToken "ghp_0123" ∧ IsToken "github_pat_4567") ∧
      (told "ghp_0123").value = (told "github_pat_4567").value ∧
      (told "ghp_0123").records = (told "github_pat_4567").records := by
  intro search told
  have ht : IsToken "ghp_0123" := ⟨by decide, by decide⟩
  have ht' : IsToken "github_pat_4567" := ⟨by decide, by decide⟩
  have halike := (sessions_alike .standard ht ht').2.1 [(.response 401 [], search)]
  exact ⟨⟨ht, ht'⟩, halike.value, halike.records⟩

/-- An address with a name and a password makes a request for a page carry them. -/
theorem documentation_carries_credentials :
    let s : Settings := { Settings.standard with docsBaseUrl := "http://u:p@h" }
    let m : Json := .obj [("method", .str "resources/read"),
      ("params", .obj [("uri", .str "zig://docs/std-lib")])]
    asked? m = some (.documentation .std) ∧
      (converse (s.withToken "ghp_0123") [(.response 200 [], .message m)]).requests.map
        Http.Request.authorization = [some (Text.ofString "Basic dTpw")] := by
  intro s m
  rw [requests_converse]
  decide +kernel

end Rpc

end ZigAdvisor
