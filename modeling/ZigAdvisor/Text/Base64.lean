import ZigAdvisor.Text.Encoding

/-!
# Base 64

Three bytes are written as four digits of six bits each. A shorter group at the end is filled up
with zero bits, and with equals signs to four.
-/

namespace ZigAdvisor.Base64

def digit (n : Nat) : CodePoint :=
  .ofNat (
    if n < 26 then 0x41 + n
    else if n < 52 then 0x61 + (n - 26)
    else if n < 62 then 0x30 + (n - 52)
    else if n = 62 then 0x2B
    else 0x2F)

def group (a b c : UInt8) : Text :=
  let n := ByteOrder.bigEndian.value [a, b, c]
  [digit (n / 0x40000), digit (n / 0x1000 % 0x40), digit (n / 0x40 % 0x40), digit (n % 0x40)]

def encode : Bytes → Text
  | [] => []
  | [a] => (group a 0 0).take 2 ++ "=="
  | [a, b] => (group a b 0).take 3 ++ "="
  | a :: b :: c :: rest => group a b c ++ encode rest

end ZigAdvisor.Base64
