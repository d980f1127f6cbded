import ZigAdvisor.Json.Reader
import ZigAdvisor.Text.Utf8
import ZigAdvisor.Text.WideUnits

/-!
# JSON in bytes

A JSON text begins with two code points of ASCII, so that the zero bytes among the first four tell
its encoding. A byte order mark at the front tells it as well and is no part of the text.
-/

namespace ZigAdvisor.Json

def markedEncoding? : Bytes → Option (Encoding × Bytes)
  | 0x00 :: 0x00 :: 0xFE :: 0xFF :: rest => some (.utf32 .bigEndian, rest)
  | 0xFF :: 0xFE :: 0x00 :: 0x00 :: rest => some (.utf32 .littleEndian, rest)
  | 0xFE :: 0xFF :: rest => some (.utf16 .bigEndian, rest)
  | 0xFF :: 0xFE :: rest => some (.utf16 .littleEndian, rest)
  | 0xEF :: 0xBB :: 0xBF :: rest => some (.utf8, rest)
  | _ => none

def plainEncoding : Bytes → Encoding
  | a :: b :: c :: d :: _ =>
    if a = 0 then if b = 0 then .utf32 .bigEndian else .utf16 .bigEndian
    else if b = 0 then
      if c = 0 ∧ d = 0 then .utf32 .littleEndian else .utf16 .littleEndian
    else .utf8
  | [a, b] => if a = 0 then .utf16 .bigEndian else if b = 0 then .utf16 .littleEndian else .utf8
  | _ => .utf8

/-- The text of some bytes. What is malformed is told by its place among all the bytes, in units of
one byte by its place behind the mark. -/
def decode (bytes : Bytes) : Except Encoding.Error Text :=
  let (encoding, rest) := (markedEncoding? bytes).getD (plainEncoding bytes, bytes)
  let start := bytes.length - rest.length
  match encoding with
  | .utf8 => Utf8.decodeWithSurrogates rest
  | .utf16 order => Utf16.decodeFrom order start rest
  | .utf32 order => Utf32.decodeFrom order start rest

end ZigAdvisor.Json
