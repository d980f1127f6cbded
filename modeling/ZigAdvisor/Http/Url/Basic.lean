import ZigAdvisor.Domain.Name
import ZigAdvisor.Http.Host
import ZigAdvisor.Http.Url.Parts
import ZigAdvisor.Http.Url.Percent

/-!
# Addresses

An address is held as it is sent: its parts percent-encoded, its dot segments removed, and its host
in lower case without the standard port. What cannot be held so is refused for the first reason
that is met.
-/

namespace ZigAdvisor.Http

structure Url where
  scheme : Text
  userInfo : Text
  host : Text
  port : Option Int
  path : Text
  query : Option Text
  fragment : Option Text

namespace Url

/-! ## Normal forms -/

/-- The segments that are kept so far, given backwards, and one more: a dot is not kept, and two
dots take the segment before away. -/
def keepSegment (kept : List Text) (segment : Text) : List Text :=
  if segment = ("." : Text) then kept
  else if segment = (".." : Text) then
    if kept = [[]] then kept else kept.tail
  else segment :: kept

def normalPath (path : Text) : Text :=
  .join "/" ((Text.pieces '/' path).foldl keepSegment []).reverse

def standardPorts : List (Text × Int) :=
  [("ftp", 21), ("http", 80), ("https", 443), ("ws", 80), ("wss", 443)]

def normalPort (scheme port : Text) : Except Fault (Option Int) :=
  if port.isEmpty then .ok none
  else match Text.toInt? port with
    | none => .error (.badPort port)
    | some n => .ok (if standardPorts.lookup scheme = some n then none else some n)

/-- A host as it is sent, an address in version 6 without its brackets. -/
def normalHost (host : Text) : Except Fault Text :=
  if Host.hasFourNumbers host then
    if Host.isVersion4 host then .ok host else .error (.badVersion4 host)
  else if host.head? = some ('[' : CodePoint) ∧ host.getLast? = some (']' : CodePoint) then
    let address := host.tail.dropLast
    if Host.isVersion6 address then .ok address else .error (.badVersion6 host)
  else if host.isAscii then percentEncode hostMarks (host.map CodePoint.lowerAscii)
  else match Domain.Name.toAscii host.lower with
    | .ok name => .ok name
    | .error _ => .error (.badName host)

def ofParts (parts : Parts) : Except Fault Url := do
  let (userInfo, rest) := (splitAtLast? '@' parts.authority).getD ([], parts.authority)
  let (host, port) := splitHost rest
  let userInfo ← percentEncode userInfoMarks userInfo
  let host ← normalHost host
  let port ← normalPort parts.scheme port
  let relative := parts.scheme.isEmpty && userInfo.isEmpty && host.isEmpty && port.isNone
  if relative && parts.path.startsWith "//" then throw .hostlessPath
  if relative && parts.path.startsWith ":" then throw .schemelessPath
  let path ← percentEncode pathMarks (if relative then parts.path else normalPath parts.path)
  let query ← parts.query.mapM (percentEncode queryMarks)
  let fragment ← parts.fragment.mapM (percentEncode fragmentMarks)
  let scheme := parts.scheme.map CodePoint.lowerAscii
  return { scheme, userInfo, host, port, path, query, fragment }

/-! ## Reading and writing -/

/-- The longest text that is taken for an address or a part of one. -/
def maxLength : Nat := 65536

def isControl (c : CodePoint) : Bool := c.val < 0x20 || c.val == 0x7F

def parse (t : Text) : Except Fault Url := do
  if maxLength < t.length then throw .tooLong
  match t.span fun c => !isControl c with
  | (before, c :: _) => throw (.controlCharacter c before.length)
  | (_, []) => ofParts (Parts.ofText t)

/-- The host and the port behind it. Colons in the host are kept apart by brackets. -/
def hostAndPort (u : Url) : Text :=
  .concat [
    if Text.contains u.host ":" then .concat ["[", u.host, "]"] else u.host,
    match u.port with | some p => .concat [":", .ofInt p] | none => []]

def parts (u : Url) : Parts where
  scheme := u.scheme
  authority :=
    if u.userInfo.isEmpty then u.hostAndPort else .concat [u.userInfo, "@", u.hostAndPort]
  path := u.path
  query := u.query
  fragment := u.fragment

def written (u : Url) : Text := u.parts.written

/-- The address of parts that have been put together, none of which may be too long. -/
def ofChosenParts (parts : Parts) : Except Fault Url :=
  match parts.named.find? fun (_, part) => maxLength < part.length with
  | some (name, _) => .error (.longPart name)
  | none => ofParts parts

/-- An address with another query. Its parts are put into normal form again: the escapes of the
host end up in lower case, and a port goes that is standard for the scheme in lower case. -/
def withQuery (u : Url) (query : Text) : Except Fault Url :=
  ofChosenParts { u.parts with query := some query }

end Url

end ZigAdvisor.Http
