import ZigAdvisor.Json.Octets
import ZigAdvisor.Json.Writer
import ZigAdvisor.Resource.Fetch

/-!
# Popular repositories

The repositories with the most stars, as the search of the code host lists them. Of each one its
name, description, stars and address are kept.
-/

namespace ZigAdvisor.Repositories

def searchUrl (s : Settings) : Text := .concat [s.githubApiUrl, "/search/repositories"]

def authorization (s : Settings) : Option Text :=
  (s.githubToken.filter (!·.isEmpty)).map fun token => .concat ["token ", token]

def acceptedType : Text := "application/vnd.github.v3+json"

def headers (s : Settings) : List (String × Text) :=
  [("Accept", acceptedType), ("User-Agent", Http.userAgent)] ++
    (authorization s).toList.map fun value => ("Authorization", value)

def query (s : Settings) : Text :=
  .concat ["q=language%3Azig&sort=stars&order=desc&per_page=", .ofInt s.popularRepoCount]

def request (s : Settings) (url : Http.Url) : Http.Request where
  url := url
  accept := acceptedType
  userAgent := Http.userAgent
  authorization := authorization s
  timeout := s.httpTimeout

def value (item : Json) (key : Text) : Json := (item.member? key).getD .null

def entry (item : Json) : Json :=
  .obj [
    ("name", value item "full_name"),
    ("description", value item "description"),
    ("stars", value item "stargazers_count"),
    ("url", value item "html_url")]

def isObject : Json → Bool
  | .obj _ => true
  | _ => false

def items? (answer : Json) : Option (List Json) :=
  match answer with
  | .obj members =>
    match Json.find? members "items" with
    | none => some []
    | some (.arr items) => if items.all isObject then some items else none
    | some _ => none
  | _ => none

/-- The value of a body, or why it has none, for a reader that goes `depth` deep. -/
def readBody (depth : Nat) (body : Bytes) : Except FetchFault Json :=
  match Json.decode body with
  | .error e => .error (.failed e.message)
  | .ok text =>
    match Json.parse text depth with
    | .ok answer => .ok answer
    | .error .deepArray => .error (.tooDeep (Json.Fault.message text .deepArray))
    | .error .deepObject => .error (.tooDeep (Json.Fault.message text .deepObject))
    | .error fault => .error (.failed (fault.message text))

def search (s : Settings) (net : Http.Outcome) : Traced (Except FetchFault Json) :=
  match (authorization s).bind Text.asciiFault? with
  | some message => return .error (.failed message)
  | none =>
    match Http.Url.ofRequested (searchUrl s) (some (query s)) with
    | .error fault => return .error (FetchFault.badAddress fault).asFailure
    | .ok url => do
      match ← Http.fetch net (request s url) with
      | .ok body => return readBody s.nesting.bodies body
      | .error fault => return .error fault.asFailure

/-- The entries as they are listed, by a writer that goes `depth` deep. -/
def writeListing (depth : Nat) (items : List Json) : Except FetchFault Text :=
  let written := (Json.arr (items.map entry)).writeWithin (.indented 0) depth
  if written.complete then .ok written.text
  else .error (.tooDeep "maximum recursion depth exceeded")

def fetch (s : Settings) (net : Http.Outcome) : Traced (Except FetchFault Text) := do
  .log .info "Fetching popular Zig repositories"
  match ← search s net with
  | .error (.failed message) => do
    let told := Text.concat ["Failed to fetch popular repositories: ", message]
    .log .error told
    return .error (.failed told)
  | .error fault => return .error fault
  | .ok answer =>
    match items? answer with
    | some items => return writeListing s.nesting.listings items
    | none => do
      let told : Text := "Failed to fetch popular repositories: unexpected response"
      .log .error told
      return .error (.failed told)

end ZigAdvisor.Repositories
