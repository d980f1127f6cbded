import ZigAdvisor.Text.Basic

/-!
# Encodings

The encodings that a text may have in bytes, and what is said of bytes that are in none of them.
-/

namespace ZigAdvisor

abbrev Bytes := List UInt8

inductive ByteOrder
  | bigEndian
  | littleEndian
deriving DecidableEq

namespace ByteOrder

def value : ByteOrder → Bytes → Nat
  | bigEndian, bytes => bytes.foldl (fun n b => n * 0x100 + b.toNat) 0
  | littleEndian, bytes => bytes.foldr (fun b n => n * 0x100 + b.toNat) 0

def suffix : ByteOrder → String
  | bigEndian => "be"
  | littleEndian => "le"

end ByteOrder

inductive Encoding
  | utf8
  | utf16 (order : ByteOrder)
  | utf32 (order : ByteOrder)
deriving DecidableEq

namespace Encoding

def name : Encoding → Text
  | utf8 => "utf-8"
  | utf16 order => .concat ["utf-16-", order.suffix]
  | utf32 order => .concat ["utf-32-", order.suffix]

inductive Fault
  | badStart
  | badContinuation
  | truncated
  /-- The last unit lacks bytes. -/
  | partialUnit
  | beyondLast
deriving DecidableEq

def Fault.message : Fault → String
  | badStart => "invalid start byte"
  | badContinuation => "invalid continuation byte"
  | truncated => "unexpected end of data"
  | partialUnit => "truncated data"
  | beyondLast => "code point not in range(0x110000)"

/-- Bytes that could not be decoded: the first malformed ones. -/
structure Error where
  encoding : Encoding
  fault : Fault
  position : Nat
  byte : UInt8
  size : Nat

def Error.message (e : Error) : Text :=
  let place : Text :=
    if e.size = 1 then
      .concat [" byte 0x", Text.hex 2 e.byte.toNat, " in position ", .ofNat e.position]
    else
      .concat [" bytes in position ", .ofNat e.position, "-", .ofNat (e.position + e.size - 1)]
  .concat ["'", e.encoding.name, "' codec can't decode", place, ": ", e.fault.message]

end Encoding

end ZigAdvisor
