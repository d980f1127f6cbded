import ZigAdvisor.Http.Status
import ZigAdvisor.Json.Reader
import ZigAdvisor.Service.Settings
import ZigAdvisor.Service.Trace
import ZigAdvisor.Text.Quoted

/-!
# Fetching

A fetch sends one request and is not repeated. What goes wrong is either a failure to deliver,
which is expected and has a wording of its own, or something else.
-/

namespace ZigAdvisor

inductive FetchFault
  /-- The other side did not deliver. -/
  | failed (message : Text)
  /-- The transport broke down. -/
  | crashed (message : Text)
  /-- The answer is nested too deeply. -/
  | tooDeep (message : Text)
  /-- No request can be made to the address. -/
  | badAddress (fault : Http.Url.Fault)
  /-- The address does not tell where to send a request. -/
  | relativeAddress (url : Text)
  /-- What stands of the host in front of a bracket in it is no host. -/
  | cutHost (host : Text)

namespace FetchFault

def message : FetchFault → Text
  | failed m => m
  | crashed m => m
  | tooDeep m => m
  | badAddress fault => fault.message
  | relativeAddress url => .concat ["unknown url type: ", url.quoted]
  | cutHost host => .concat [host.quoted, " does not appear to be an IPv4 or IPv6 address"]

def asFailure : FetchFault → FetchFault
  | badAddress fault => if fault.isUnencodable then failed fault.message else badAddress fault
  | relativeAddress url => failed (relativeAddress url).message
  | cutHost host => failed (cutHost host).message
  | fault => fault

end FetchFault

namespace Http

def userAgent : Text := "zig-mcp"

/-- The request with the name and password of its address, if it has them, instead of a token. -/
def Request.withCredentials (request : Request) : Request :=
  match request.url.credentials? with
  | some credentials => { request with authorization := some credentials }
  | none => request

/-- Why no response is taken from an address, whatever it is. The host is read once more, up to a
bracket in it, which only the zone of an address can hold. -/
def responseFault? (url : Url) : Option FetchFault :=
  let host := url.host.takeWhile (· ≠ (']' : CodePoint))
  if !url.isAbsolute then some (.relativeAddress url.written)
  else if host ≠ url.host ∧ !Host.isVersion6 host then some (.cutHost host)
  else none

def fetch (net : Outcome) (request : Request) : Traced (Except FetchFault Bytes) := do
  .send request.withCredentials
  match net with
  | .response status body =>
    match responseFault? request.url with
    | some fault => return .error fault
    | none =>
      if Status.isSuccess status then return .ok body
      else return .error (.failed (Status.message status request.url.written))
  | .transportError message => return .error (.failed message)
  | .crash message => return .error (.crashed message)

end Http

end ZigAdvisor
