import ZigAdvisor.Text.Encoding

/-!
# Units of two and of four bytes

Decoding of texts whose units are wider than a byte. A surrogate that has no partner is kept as it
is.
-/

namespace ZigAdvisor

namespace Utf16

def units (order : ByteOrder) : (position : Nat) → Bytes → Except Encoding.Error (List Nat)
  | _, [] => .ok []
  | position, [a] => .error ⟨.utf16 order, .partialUnit, position, a, 1⟩
  | position, a :: b :: rest => (units order (position + 2) rest).map (order.value [a, b] :: ·)

def isHigh (unit : Nat) : Bool := 0xD800 ≤ unit && unit ≤ 0xDBFF

def isLow (unit : Nat) : Bool := 0xDC00 ≤ unit && unit ≤ 0xDFFF

def join : List Nat → Text
  | [] => []
  | [unit] => [.ofNat unit]
  | first :: second :: rest =>
    if isHigh first && isLow second then
      .ofNat (0x10000 + (first - 0xD800) * 0x400 + (second - 0xDC00)) :: join rest
    else .ofNat first :: join (second :: rest)

def decodeFrom (order : ByteOrder) (position : Nat) (bytes : Bytes) :
    Except Encoding.Error Text :=
  (units order position bytes).map join

end Utf16

namespace Utf32

def decodeFrom (order : ByteOrder) : (position : Nat) → Bytes → Except Encoding.Error Text
  | _, [] => .ok []
  | position, a :: b :: c :: d :: rest =>
    let n := order.value [a, b, c, d]
    if h : n < 0x110000 then (decodeFrom order (position + 4) rest).map (⟨n, h⟩ :: ·)
    else .error ⟨.utf32 order, .beyondLast, position, a, 4⟩
  | position, a :: rest => .error ⟨.utf32 order, .partialUnit, position, a, rest.length + 1⟩

end Utf32

end ZigAdvisor
