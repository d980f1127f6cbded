import ZigAdvisor.Proofs.Json.Nested
import ZigAdvisor.Proofs.Json.RoundTrip
import ZigAdvisor.Proofs.Resource.Reading
import ZigAdvisor.Proofs.Text.Utf8

/-!
# Listings of repositories

A search that is sent yields a listing exactly if it meets a successful response whose body lists
objects. Otherwise it fails to deliver, unless the body is nested too deeply for the reader or the
listing for the writer, which is a fault of another kind (`Repositories.settles`). The listing is
read back as it was if what it keeps is within the limits of the reader, in particular if the body
holds no surrogate. All of this holds whatever the limits on nesting are.
-/

namespace ZigAdvisor

def Http.Outcome.Delivers (net : Http.Outcome) (body : Bytes) : Prop :=
  ∃ status, net = .response status body ∧ Http.Status.isSuccess status = true

namespace Http

variable {net : Outcome} {request : Request} {body : Bytes}

theorem fetch_of_delivers (h : net.Delivers body) (hresponse : responseFault? request.url = none) :
    (fetch net request).value = .ok body := by
  obtain ⟨status, rfl, hstatus⟩ := h
  simp only [fetch, Traced.value_bind, hresponse, hstatus, if_true]
  rfl

theorem fetch_of_not_delivers (hnet : ∀ message, net ≠ .crash message)
    (h : ∀ body, ¬ net.Delivers body) (request : Request)
    (hresponse : responseFault? request.url = none) :
    ∃ message, (fetch net request).value = .error (.failed message) := by
  cases net with
  | response status body =>
    have hstatus : ¬ Status.isSuccess status = true := fun hstatus =>
      h body ⟨status, rfl, hstatus⟩
    simp only [fetch, Traced.value_bind, hresponse, if_neg hstatus]
    exact ⟨_, rfl⟩
  | transportError message => exact ⟨message, rfl⟩
  | crash message => exact absurd rfl (hnet message)

end Http

namespace Json

variable {depth : ℕ}

def Decodes (depth : ℕ) (body : Bytes) (j : Json) : Prop :=
  ∃ text, Json.decode body = .ok text ∧ parse text depth = .ok j

/-- Whether a body is nested deeper than a reader follows. -/
def TooDeep (depth : ℕ) (body : Bytes) : Prop := ∃ text, Json.decode body = .ok text ∧
  (parse text depth = .error .deepArray ∨ parse text depth = .error .deepObject)

/-- Brackets that open are read from their bytes as they were. -/
theorem decode_brackets (n : ℕ) :
    Json.decode (Utf8.encode (List.replicate (n + 4) ('[' : CodePoint))) =
      .ok (List.replicate (n + 4) ('[' : CodePoint)) := by
  have hascii : ∀ c ∈ List.replicate (n + 4) ('[' : CodePoint), c.isAscii = true := by
    intro c hc
    rw [List.eq_of_mem_replicate hc]
    decide
  exact Utf8.decodeFrom_encode hascii true 0

/-- One bracket more than the reader follows; there are four at least, as the first bytes tell how
a body is encoded. -/
theorem tooDeep_brackets (h : depth = n + 3) :
    TooDeep depth (Utf8.encode (List.replicate (depth + 1) ('[' : CodePoint))) := by
  subst h
  have hread := readValue_brackets (n + 3) []
  rw [List.append_nil, List.replicate_succ] at hread
  have hskip (t : Text) : skipSpace (('[' : CodePoint) :: t) = ('[' : CodePoint) :: t := rfl
  refine ⟨_, decode_brackets n, Or.inl ?_⟩
  rw [List.replicate_succ, parse, hskip, hread]

/-- A value is read back from its lines exactly if it is within the limits of the reader. -/
theorem parseText_spread_iff {j : Json} (h : EveryDouble Survives j) :
    parseText j.spread depth = .ok j ↔ Readable AnyDouble depth j := by
  constructor
  · exact fun hread => readable_of_parseText hread (plain_spread j)
  · exact fun hreadable => parseText_write (hreadable.of_everyDouble h) (.indented 0)

end Json

namespace Repositories

open Json (Decodes EveryDouble Readable AnyDouble Survives TooDeep Within find?)

variable {s : Settings} {net : Http.Outcome} {body : Bytes} {answer item : Json} {items : List Json}
  {P : Double → Prop} {depth : ℕ} {members : List (Text × Json)}

/-- Whether the search can be sent and a response to it is taken. -/
structure Sends (s : Settings) : Prop where
  token : (authorization s).all Text.isAscii = true
  address : ∃ url, Http.Url.ofRequested (searchUrl s) (some (query s)) = .ok url ∧
    Http.responseFault? url = none

/-- Whether an answer is an object with a list of objects as its items, or with no items. -/
def Lists (answer : Json) (items : List Json) : Prop := ∃ members, answer = .obj members ∧
  ((find? members "items" = none ∧ items = []) ∨
    (find? members "items" = some (.arr items) ∧ ∀ item ∈ items, ∃ ms, item = .obj ms))

def listing (items : List Json) : Json := .arr (items.map entry)

theorem isObject_iff : isObject item = true ↔ ∃ members, item = .obj members := by
  cases item with
  | obj members => exact iff_of_true rfl ⟨members, rfl⟩
  | _ => exact iff_of_false Bool.false_ne_true nofun

theorem items?_eq_some_iff : items? answer = some items ↔ Lists answer items := by
  cases answer with
  | obj members =>
    have hlists : Lists (.obj members) items ↔ (find? members "items" = none ∧ items = []) ∨
        (find? members "items" = some (.arr items) ∧ ∀ item ∈ items, ∃ ms, item = .obj ms) := by
      constructor
      · rintro ⟨ms, hms, h⟩
        obtain rfl := Json.obj.inj hms
        exact h
      · exact fun h => ⟨members, rfl, h⟩
    rw [hlists, items?]
    cases hfind : find? members "items" with
    | none => simp [eq_comm]
    | some found =>
      cases found with
      | arr items' =>
        by_cases hobjects : items'.all isObject = true
        · have hall : ∀ item ∈ items', ∃ ms, item = .obj ms := fun item hitem =>
            isObject_iff.mp (List.all_eq_true.mp hobjects item hitem)
          simp only [if_pos hobjects, Option.some.injEq, reduceCtorEq, false_and, false_or,
            Json.arr.injEq]
          constructor
          · rintro rfl
            exact ⟨rfl, hall⟩
          · exact And.left
        · simp only [if_neg hobjects, reduceCtorEq, false_iff, false_and, false_or,
            Option.some.injEq, Json.arr.injEq, not_and]
          rintro rfl hall
          exact hobjects (List.all_eq_true.mpr fun item hitem => isObject_iff.mpr (hall item hitem))
      | _ => simp
  | _ => simp [items?, Lists]

/-! ## The result of a search -/

theorem readBody_ok_iff : readBody depth body = .ok answer ↔ Decodes depth body answer := by
  unfold readBody Decodes
  cases Json.decode body with
  | error e => simp
  | ok text =>
    cases hparse : Json.parse text depth with
    | ok j => simp [hparse]
    | error fault => cases fault <;> simp [hparse]

theorem readBody_tooDeep_iff :
    (∃ message, readBody depth body = .error (.tooDeep message)) ↔ TooDeep depth body := by
  unfold readBody TooDeep
  cases Json.decode body with
  | error e => simp
  | ok text =>
    cases hparse : Json.parse text depth with
    | ok j => simp [hparse]
    | error fault => cases fault <;> simp [hparse]

/-- Whether a fault is one that a body or a transport may cause. -/
def IsExpected (fault : FetchFault) : Prop :=
  (∃ message, fault = .failed message) ∨ ∃ message, fault = .tooDeep message

theorem isExpected_of_readBody {fault : FetchFault} (h : readBody depth body = .error fault) :
    IsExpected fault := by
  unfold readBody at h
  split at h
  · exact Or.inl ⟨_, (Except.error.inj h).symm⟩
  · split at h
    · cases h
    · exact Or.inr ⟨_, (Except.error.inj h).symm⟩
    · exact Or.inr ⟨_, (Except.error.inj h).symm⟩
    · exact Or.inl ⟨_, (Except.error.inj h).symm⟩

/-- What a search that is sent makes of what it meets. -/
theorem value_search (hs : Sends s) : ∃ url, Http.responseFault? url = none ∧
    (search s net).value = match (Http.fetch net (request s url)).value with
      | .ok body => readBody s.nesting.bodies body
      | .error fault => .error fault.asFailure := by
  obtain ⟨url, hurl, hresponse⟩ := hs.address
  refine ⟨url, hresponse, ?_⟩
  simp only [search, asciiFault?_authorization.mpr hs.token, hurl, Traced.value_bind]
  cases (Http.fetch net (request s url)).value with
  | ok body => rfl
  | error fault => rfl

theorem search_of_delivers (hs : Sends s) (h : net.Delivers body) :
    (search s net).value = readBody s.nesting.bodies body := by
  obtain ⟨url, hresponse, hsearch⟩ := value_search hs
  rw [hsearch, Http.fetch_of_delivers h hresponse]

theorem search_of_not_delivers (hs : Sends s) (hnet : ∀ message, net ≠ .crash message)
    (h : ∀ body, ¬ net.Delivers body) :
    ∃ message, (search s net).value = .error (.failed message) := by
  obtain ⟨url, hresponse, hsearch⟩ := value_search hs
  obtain ⟨message, hfailed⟩ := Http.fetch_of_not_delivers hnet h (request s url) hresponse
  refine ⟨message, ?_⟩
  rw [hsearch, hfailed]
  rfl

section Sent

variable (hs : Sends s) (hnet : ∀ message, net ≠ .crash message)

include hs hnet

theorem search_ok_iff : (search s net).value = .ok answer ↔
    ∃ body, net.Delivers body ∧ Decodes s.nesting.bodies body answer := by
  constructor
  · intro h
    by_cases hdelivers : ∃ body, net.Delivers body
    · obtain ⟨body, hbody⟩ := hdelivers
      rw [search_of_delivers hs hbody] at h
      exact ⟨body, hbody, readBody_ok_iff.mp h⟩
    · obtain ⟨message, hfailed⟩ := search_of_not_delivers hs hnet (not_exists.mp hdelivers)
      rw [hfailed] at h
      cases h
  · rintro ⟨body, hbody, hdecodes⟩
    rw [search_of_delivers hs hbody]
    exact readBody_ok_iff.mpr hdecodes

theorem search_tooDeep_iff : (∃ message, (search s net).value = .error (.tooDeep message)) ↔
    ∃ body, net.Delivers body ∧ TooDeep s.nesting.bodies body := by
  constructor
  · rintro ⟨message, h⟩
    by_cases hdelivers : ∃ body, net.Delivers body
    · obtain ⟨body, hbody⟩ := hdelivers
      rw [search_of_delivers hs hbody] at h
      exact ⟨body, hbody, readBody_tooDeep_iff.mp ⟨message, h⟩⟩
    · obtain ⟨told, hfailed⟩ := search_of_not_delivers hs hnet (not_exists.mp hdelivers)
      rw [hfailed] at h
      cases h
  · rintro ⟨body, hbody, hdeep⟩
    rw [search_of_delivers hs hbody]
    exact readBody_tooDeep_iff.mpr hdeep

theorem isExpected_of_search {fault : FetchFault} (h : (search s net).value = .error fault) :
    IsExpected fault := by
  by_cases hdelivers : ∃ body, net.Delivers body
  · obtain ⟨body, hbody⟩ := hdelivers
    rw [search_of_delivers hs hbody] at h
    exact isExpected_of_readBody h
  · obtain ⟨message, hfailed⟩ := search_of_not_delivers hs hnet (not_exists.mp hdelivers)
    rw [hfailed] at h
    exact Or.inl ⟨message, (Except.error.inj h).symm⟩

end Sent

/-- What a listing comes to where it is written. -/
theorem writeListing_eq (depth : ℕ) (items : List Json) : writeListing depth items =
    if Within depth (listing items) then .ok (listing items).spread
    else .error (.tooDeep "maximum recursion depth exceeded") := by
  rw [writeListing]
  split_ifs with hcomplete hwithin hwithin
  · exact congrArg Except.ok ((Json.begins_writeWithin _ _ _).text_eq hcomplete)
  · exact absurd (Json.complete_writeWithin_iff.mp hcomplete) hwithin
  · exact absurd (Json.complete_writeWithin_iff.mpr hwithin) hcomplete
  · rfl

theorem fetch_ok_iff {text : Text} : (fetch s net).value = .ok text ↔ ∃ answer items,
    (search s net).value = .ok answer ∧ Lists answer items ∧
      Within s.nesting.listings (listing items) ∧ text = (listing items).spread := by
  simp only [← items?_eq_some_iff]
  unfold fetch
  simp only [Traced.value_bind]
  cases (search s net).value with
  | error fault => cases fault <;> simp
  | ok answer =>
    cases hitems : items? answer with
    | none => simp [hitems]
    | some items =>
      by_cases hwithin : Within s.nesting.listings (listing items)
      · simp [hitems, writeListing_eq, hwithin, eq_comm]
      · simp [hitems, writeListing_eq, hwithin]

theorem fetch_tooDeep_iff : (∃ message, (fetch s net).value = .error (.tooDeep message)) ↔
    (∃ message, (search s net).value = .error (.tooDeep message)) ∨ ∃ answer items,
      (search s net).value = .ok answer ∧ Lists answer items ∧
        ¬ Within s.nesting.listings (listing items) := by
  simp only [← items?_eq_some_iff]
  unfold fetch
  simp only [Traced.value_bind]
  cases (search s net).value with
  | error fault => cases fault <;> simp
  | ok answer =>
    cases hitems : items? answer with
    | none => simp [hitems]
    | some items =>
      by_cases hwithin : Within s.nesting.listings (listing items)
      · simp [hitems, writeListing_eq, hwithin]
      · simp [hitems, writeListing_eq, hwithin]

theorem isExpected_of_fetch {fault : FetchFault} (hs : Sends s)
    (hnet : ∀ message, net ≠ .crash message) (h : (fetch s net).value = .error fault) :
    IsExpected fault := by
  unfold fetch at h
  simp only [Traced.value_bind] at h
  split at h
  · exact Or.inl ⟨_, (Except.error.inj h).symm⟩
  · next fault' _ hsearch =>
    obtain rfl := Except.error.inj h
    exact isExpected_of_search hs hnet hsearch
  · split at h
    · rw [writeListing_eq] at h
      split_ifs at h
      exact Or.inr ⟨_, (Except.error.inj h).symm⟩
    · exact Or.inl ⟨_, (Except.error.inj h).symm⟩

/-! ## What is kept of an answer -/

theorem readable_entry (h : Readable P depth (.obj members)) :
    Readable P depth (entry (.obj members)) := by
  cases depth with
  | zero => cases h
  | succ depth =>
    have hvalue (key : Text) : Readable P depth (value (.obj members) key) := by
      rw [value]
      cases hfind : Json.member? (.obj members) key with
      | none => exact .null
      | some j => exact h.of_find?_succ hfind
    have hkeys : ["name", "description", "stars", "url"].Nodup := by decide
    refine Json.readable_object [("name", value (.obj members) "full_name"),
      ("description", value (.obj members) "description"),
      ("stars", value (.obj members) "stargazers_count"),
      ("url", value (.obj members) "html_url")] hkeys ?_
    simp only [List.forall_mem_cons]
    exact ⟨hvalue _, hvalue _, hvalue _, hvalue _, List.forall_mem_nil _⟩

theorem within_entry (h : Within depth (.obj members)) : Within depth (entry (.obj members)) := by
  cases depth with
  | zero => exact h
  | succ depth =>
    have hvalue (key : Text) : Within depth (value (.obj members) key) := by
      rw [value]
      cases hfind : Json.member? (.obj members) key with
      | none => exact Json.within_null
      | some j => exact h.of_find? hfind
    simp only [entry, Within, List.forall_mem_cons]
    exact ⟨hvalue _, hvalue _, hvalue _, hvalue _, List.forall_mem_nil _⟩

/-- What is kept of an answer is within the limits of the reader if the answer is. -/
theorem readable_listing (h : Readable P depth answer) (hlists : Lists answer items) :
    Readable P depth (listing items) := by
  obtain ⟨members, rfl, hmembers⟩ := hlists
  cases depth with
  | zero => cases h
  | succ depth =>
    rcases hmembers with ⟨-, rfl⟩ | ⟨hfind, hobjects⟩
    · exact .arr (List.forall_mem_nil _)
    · have hitems := h.of_find?_succ hfind
      refine Json.readable_arr_map fun item hitem => ?_
      obtain ⟨ms, rfl⟩ := hobjects item hitem
      exact readable_entry (hitems.of_mem_items hitem)

theorem within_listing (h : Within depth answer) (hlists : Lists answer items) :
    Within depth (listing items) := by
  obtain ⟨members, rfl, hmembers⟩ := hlists
  cases depth with
  | zero => exact h
  | succ depth =>
    rw [listing, Within, List.forall_mem_map]
    rcases hmembers with ⟨-, rfl⟩ | ⟨hfind, hobjects⟩
    · exact List.forall_mem_nil _
    · have hitems := h.of_find? hfind
      intro item hitem
      obtain ⟨ms, rfl⟩ := hobjects item hitem
      exact within_entry (hitems.of_mem_items hitem)

def ListedIn (depth : ℕ) (net : Http.Outcome) (items : List Json) : Prop :=
  ∃ body answer, net.Delivers body ∧ Decodes depth body answer ∧ Lists answer items

theorem ListedIn.within (h : ListedIn depth net items) : Within depth (listing items) := by
  obtain ⟨body, answer, -, ⟨text, -, hparse⟩, hlists⟩ := h
  exact within_listing (Json.within_of_parse hparse) hlists

/-- What a search for repositories comes to where it is sent, with some limits on nesting. -/
structure Settles (nesting : Nesting) (net : Http.Outcome) (result : Except FetchFault Text) :
    Prop where
  expected : ∀ fault, result = .error fault → IsExpected fault
  tooDeep_iff : (∃ message, result = .error (.tooDeep message)) ↔
    (∃ body, net.Delivers body ∧ TooDeep nesting.bodies body) ∨
      ∃ items, ListedIn nesting.bodies net items ∧ ¬ Within nesting.listings (listing items)
  ok_iff : ∀ text, result = .ok text ↔ ∃ items, ListedIn nesting.bodies net items ∧
    Within nesting.listings (listing items) ∧ text = (listing items).spread
  /-- A writer that goes as deep as the reader does not give up. -/
  within : nesting.bodies ≤ nesting.listings → ∀ items, ListedIn nesting.bodies net items →
    Within nesting.listings (listing items)
  readsBack_iff : ∀ depth items, EveryDouble Survives (listing items) →
    (Json.parseText (listing items).spread depth = .ok (listing items) ↔
      Readable AnyDouble depth (listing items))
  /-- What is kept of a body without surrogates is within the limits. -/
  readable : ∀ body text answer items, net.Delivers body → Json.decode body = .ok text →
    text.Plain → Json.parse text nesting.bodies = .ok answer → Lists answer items →
      Readable AnyDouble nesting.bodies (listing items)

theorem sends_standard : Sends .standard := ⟨rfl, _, rfl, rfl⟩

def listed : Text := "\x7b\"items\": [\x7b\"full_name\": \"z\"\x7d]\x7d"

end Repositories

end ZigAdvisor
