import ZigAdvisor.Domain.Label

/-!
# Faults of addresses

What keeps a text from being an address that a request can be made to.
-/

namespace ZigAdvisor.Http.Url

inductive Fault
  | tooLong
  | controlCharacter (c : CodePoint) (position : Nat)
  | badVersion4 (host : Text)
  | badVersion6 (host : Text)
  | badName (host : Text)
  | badPort (port : Text)
  /-- A path that would be taken for a host. -/
  | hostlessPath
  /-- A path that would be taken for a scheme. -/
  | schemelessPath
  /-- A part that is too long once it is encoded. -/
  | longPart (part : String)
  /-- A surrogate has no bytes. -/
  | loneSurrogate (c : CodePoint)
  /-- A name in Punycode that stands for no name. -/
  | badPunycode (fault : Domain.Fault)
  /-- A host with its port that is not in ASCII. -/
  | notAscii (authority : Text)

def Fault.message : Fault → Text
  | tooLong => "URL too long"
  | controlCharacter c position =>
    .concat ["Invalid non-printable ASCII character in URL, ", Text.quoted [c], " at position ",
      .ofNat position, "."]
  | badVersion4 host => .concat ["Invalid IPv4 address: ", host.quoted]
  | badVersion6 host => .concat ["Invalid IPv6 address: ", host.quoted]
  | badName host => .concat ["Invalid IDNA hostname: ", host.quoted]
  | badPort port => .concat ["Invalid port: ", port.quoted]
  | hostlessPath => "Relative URLs cannot have a path starting with '//'"
  | schemelessPath => "Relative URLs cannot have a path starting with ':'"
  | loneSurrogate c =>
    .concat ["'utf-8' codec can't encode character '\\u", Text.hex 4 c.val,
      "' in position 0: surrogates not allowed"]
  | longPart part => .concat ["URL component '", part, "' too long"]
  | badPunycode fault => fault.message
  | notAscii authority => (Text.asciiFault? authority).getD []

/-- Whether the fault lies in a value that cannot be encoded, rather than in the form of the
address. -/
def Fault.isUnencodable : Fault → Bool
  | loneSurrogate _ | badPunycode _ | notAscii _ => true
  | _ => false

end ZigAdvisor.Http.Url
