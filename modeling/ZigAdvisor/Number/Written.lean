import ZigAdvisor.Number.Shortest
import ZigAdvisor.Text.Basic

/-!
# Written numbers

A double-precision number is written with the fewest digits that read back, in positional notation
from `10 ^ (-4)` up to `10 ^ 16` and with an exponent of at least two digits elsewhere.
-/

namespace ZigAdvisor

namespace Decimal

def text (digits : List Nat) : Text := digits.map fun d => CodePoint.ofNat (0x30 + d)

def zeros (n : Nat) : Text := List.replicate n ('0' : CodePoint)

def positional (d : Decimal) : Text :=
  if d.point ≤ 0 then .concat ["0.", zeros d.point.natAbs, text d.digits]
  else
    let whole := d.point.natAbs
    if d.digits.length ≤ whole then
      .concat [text d.digits, zeros (whole - d.digits.length), ".0"]
    else .concat [text (d.digits.take whole), ".", text (d.digits.drop whole)]

def scientific (d : Decimal) : Text :=
  let power := d.point - 1
  let size := Text.ofNat power.natAbs
  .concat [
    text (d.digits.take 1),
    if d.digits.length ≤ 1 then "" else ".",
    text (d.digits.drop 1),
    if power < 0 then "e-" else "e+",
    zeros (2 - size.length), size]

def written (d : Decimal) : Text :=
  if -4 < d.point ∧ d.point ≤ 16 then d.positional else d.scientific

end Decimal

namespace Double

def magnitudeText (mantissa exponent : Nat) : Text :=
  if mantissa = 0 then "0.0" else (shortest mantissa exponent).written

def minus (negative : Bool) : Text := if negative then "-" else ""

def written : Double → Text
  | nan => "nan"
  | infinity negative => .concat [minus negative, "inf"]
  | finite negative mantissa exponent =>
    .concat [minus negative, magnitudeText mantissa exponent]

end Double

end ZigAdvisor
