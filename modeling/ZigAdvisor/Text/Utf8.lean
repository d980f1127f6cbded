import ZigAdvisor.Text.Encoding

/-!
# UTF-8

Encoding of texts, and decoding that tells where and why bytes are not a text. Surrogates have a
three-byte form, which files may not hold and JSON bodies may. A web page is decoded leniently:
what is malformed becomes the replacement character.
-/

namespace ZigAdvisor.Utf8

def encodePoint (c : CodePoint) : Bytes :=
  let n := c.val
  if n < 0x80 then [n.toUInt8]
  else if n < 0x800 then [(0xC0 + n / 0x40).toUInt8, (0x80 + n % 0x40).toUInt8]
  else if n < 0x10000 then
    [(0xE0 + n / 0x1000).toUInt8, (0x80 + n / 0x40 % 0x40).toUInt8, (0x80 + n % 0x40).toUInt8]
  else
    [(0xF0 + n / 0x40000).toUInt8, (0x80 + n / 0x1000 % 0x40).toUInt8,
      (0x80 + n / 0x40 % 0x40).toUInt8, (0x80 + n % 0x40).toUInt8]

def encode (t : Text) : Bytes := t.flatMap encodePoint

inductive Front
  | point (c : CodePoint) (size : Nat)
  | malformed (fault : Encoding.Fault) (size : Nat)

/-- How many bytes a first byte announces, and the range of the second one. A zero announces
nothing. -/
def announced (first : Nat) : Nat × Nat × Nat :=
  if first < 0x80 then (1, 0, 0)
  else if first < 0xC2 then (0, 0, 0)
  else if first < 0xE0 then (2, 0x80, 0xBF)
  else if first = 0xE0 then (3, 0xA0, 0xBF)
  else if first = 0xED then (3, 0x80, 0x9F)
  else if first < 0xF0 then (3, 0x80, 0xBF)
  else if first = 0xF0 then (4, 0x90, 0xBF)
  else if first < 0xF4 then (4, 0x80, 0xBF)
  else if first = 0xF4 then (4, 0x80, 0x8F)
  else (0, 0, 0)

def continuation (low high : Nat) : (more : Nat) → (size value : Nat) → Bytes → Front
  | 0, size, value, _ => .point (.ofNat value) size
  | _ + 1, size, _, [] => .malformed .truncated size
  | more + 1, size, value, b :: rest =>
    if low ≤ b.toNat ∧ b.toNat ≤ high then
      continuation 0x80 0xBF more (size + 1) (value * 0x40 + b.toNat % 0x40) rest
    else .malformed .badContinuation size

def surrogate? (first : UInt8) : Bytes → Option CodePoint
  | b :: c :: _ =>
    if first.toNat = 0xED ∧ 0xA0 ≤ b.toNat ∧ b.toNat ≤ 0xBF ∧ 0x80 ≤ c.toNat ∧ c.toNat ≤ 0xBF then
      some (.ofNat (0xD000 + b.toNat % 0x40 * 0x40 + c.toNat % 0x40))
    else none
  | _ => none

def plainFront (first : UInt8) (rest : Bytes) : Front :=
  match announced first.toNat with
  | (0, _, _) => .malformed .badStart 1
  | (1, _, _) => .point (.ofNat first.toNat) 1
  | (2, low, high) => continuation low high 1 1 (first.toNat % 0x20) rest
  | (3, low, high) => continuation low high 2 1 (first.toNat % 0x10) rest
  | (_, low, high) => continuation low high 3 1 (first.toNat % 0x08) rest

def front (surrogates : Bool) (first : UInt8) (rest : Bytes) : Front :=
  match if surrogates then surrogate? first rest else none with
  | some c => .point c 3
  | none => plainFront first rest

/-- Decodes from position `position` on; `skip` bytes belong to the code point before. -/
def decodeFrom (surrogates : Bool) : (position skip : Nat) → Bytes → Except Encoding.Error Text
  | _, _, [] => .ok []
  | position, skip + 1, _ :: rest => decodeFrom surrogates (position + 1) skip rest
  | position, 0, b :: rest =>
    match front surrogates b rest with
    | .point c size => (decodeFrom surrogates (position + 1) (size - 1) rest).map (c :: ·)
    | .malformed fault size => .error ⟨.utf8, fault, position, b, size⟩

def decode (bytes : Bytes) : Except Encoding.Error Text := decodeFrom false 0 0 bytes

def decodeWithSurrogates (bytes : Bytes) : Except Encoding.Error Text := decodeFrom true 0 0 bytes

def decodeLossyFrom : (skip : Nat) → Bytes → Text
  | _, [] => []
  | skip + 1, _ :: rest => decodeLossyFrom skip rest
  | 0, b :: rest =>
    match front false b rest with
    | .point c size => c :: decodeLossyFrom (size - 1) rest
    | .malformed _ size => .ofNat 0xFFFD :: decodeLossyFrom (size - 1) rest

def decodeLossy (bytes : Bytes) : Text := decodeLossyFrom 0 bytes

end ZigAdvisor.Utf8
