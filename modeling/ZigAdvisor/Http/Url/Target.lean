import ZigAdvisor.Http.Url.Basic
import ZigAdvisor.Text.Base64

/-!
# Targets of requests

A request goes to an address that tells a scheme and a host; of any other, the path and the query
are all that is left. The host has to be one that can be told to the other side.
-/

namespace ZigAdvisor.Http.Url

def isAbsolute (u : Url) : Bool := !u.scheme.isEmpty && !u.host.isEmpty

/-- An address without what is of no use, if it does not tell where to send a request. -/
def target (u : Url) : Except Fault Url :=
  if u.isAbsolute then .ok u
  else
    ofChosenParts
      { scheme := [], authority := []
        path := ('/' : CodePoint) :: u.path.dropWhile (· = ('/' : CodePoint))
        query := u.query, fragment := none }

/-- Checks what the other side is told of the host: if it begins with the mark of Punycode, it
stands for a name, and all of it is in ASCII. -/
def checkHost (u : Url) : Except Fault Unit := do
  if u.host.startsWith Domain.Label.punycodeMark then
    let _ ← (Domain.Name.decode u.host).mapError Fault.badPunycode
  if !u.hostAndPort.isAscii then throw (.notAscii u.hostAndPort)

/-- The address that a request to a text is made to, with a query in place of its own if one is
given. -/
def ofRequested (t : Text) (query : Option Text) : Except Fault Url := do
  let u ← (← parse t).target
  let u ← match query with
    | some q => u.withQuery q
    | none => .ok u
  u.checkHost
  return u

def credentials? (u : Url) : Option Text :=
  let (name, rest) := splitBefore [':'] u.userInfo
  let password := (after? ':' rest).getD []
  let bytes (t : Text) : Bytes := Utf8.encode (Utf8.decodeLossy (percentDecode t))
  if name.isEmpty && password.isEmpty then none
  else some (.concat ["Basic ", Base64.encode (bytes name ++ [0x3A] ++ bytes password)])

end ZigAdvisor.Http.Url
