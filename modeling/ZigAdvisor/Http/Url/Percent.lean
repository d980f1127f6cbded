import ZigAdvisor.Http.Url.Fault
import ZigAdvisor.Text.Utf8

/-!
# Percent encoding

What an address cannot hold is written as its bytes, each behind a percent sign. What is encoded
already is left alone, so that encoding twice is the same as encoding once.
-/

namespace ZigAdvisor.Http.Url

def percentByte (b : UInt8) : Text :=
  let digit (n : Nat) : CodePoint := .ofNat (if n < 10 then 0x30 + n else 0x37 + n)
  ['%', digit (b.toNat / 16), digit (b.toNat % 16)]

/-- A text with everything encoded that is not in printable ASCII, or is one of some marks. -/
def percentEncode (marks : List CodePoint) (t : Text) : Except Fault Text :=
  match t.find? fun c => 0xD800 ≤ c.val ∧ c.val ≤ 0xDFFF with
  | some c => .error (.loneSurrogate c)
  | none => .ok (t.flatMap fun c =>
    if 0x20 < c.val ∧ c.val < 0x7F ∧ !marks.contains c then [c]
    else (Utf8.encodePoint c).flatMap percentByte)

def percentDecode : Text → Bytes
  | [] => []
  | [c] => [c.val.toUInt8]
  | [c, d] => [c.val.toUInt8, d.val.toUInt8]
  | c :: d :: e :: rest =>
    match d.hexValue?, e.hexValue? with
    | some high, some low =>
      if c = '%' then (high * 16 + low).toUInt8 :: percentDecode rest
      else c.val.toUInt8 :: percentDecode (d :: e :: rest)
    | _, _ => c.val.toUInt8 :: percentDecode (d :: e :: rest)

def fragmentMarks : List CodePoint := [.quote, '<', '>', .ofNat 0x60]

def queryMarks : List CodePoint := [.quote, '#', '<', '>']

def pathMarks : List CodePoint :=
  [.quote, '#', '<', '>', '?', .ofNat 0x60, .ofNat 0x7B, .ofNat 0x7D]

def userInfoMarks : List CodePoint :=
  pathMarks.append ['/', ';', '=', '@', '[', .backslash, ']', '^', '|']

def hostMarks : List CodePoint := ['#', '/', ':', '<', '>', '?', '@', '[', ']', '^']

end ZigAdvisor.Http.Url
