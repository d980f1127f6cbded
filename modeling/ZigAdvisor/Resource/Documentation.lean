import ZigAdvisor.Resource.Fetch

/-!
# Documentation pages

The language reference and the documentation of the standard library, for the release that the
settings name.
-/

namespace ZigAdvisor

inductive DocSection
  | language
  | std
deriving DecidableEq

namespace DocSection

def all : List DocSection := [language, std]

def name : DocSection → String
  | language => "language"
  | std => "std"

def ofName? (name : Text) : Option DocSection := all.find? fun d => Text.ofString d.name == name

def page : DocSection → String
  | language => "index.html"
  | std => "std.html"

def url (s : Settings) (d : DocSection) : Text :=
  .concat [s.docsBaseUrl, "/", s.docsVersion, "/", d.page]

def request (s : Settings) (url : Http.Url) : Http.Request where
  url := url
  accept := Http.Request.anything
  userAgent := Http.userAgent
  authorization := none
  timeout := s.httpTimeout

def fetch (s : Settings) (net : Http.Outcome) (d : DocSection) :
    Traced (Except FetchFault Text) := do
  let url := d.url s
  .log .info (.concat ["Fetching Zig documentation: ", url])
  match Http.Url.ofRequested url none with
  | .error fault => return .error (.badAddress fault)
  | .ok address =>
    match ← Http.fetch net (request s address) with
    | .ok body => return .ok (Utf8.decodeLossy body)
    | .error (.failed message) => do
      .log .error (.concat ["Failed to fetch Zig documentation from ", url, ": ", message])
      return .error (.failed (.concat ["Failed to fetch Zig documentation: ", message]))
    | .error fault => return .error fault

end DocSection

end ZigAdvisor
