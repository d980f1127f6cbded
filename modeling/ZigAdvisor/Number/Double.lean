/-!
# Double-precision numbers

A number of the interchange format with 64 bits, and the one that lies nearest to a decimal. All
arithmetic is exact, on natural numbers.
-/

namespace ZigAdvisor

/-- The quotient rounded to the nearest number, a half to the even neighbour. -/
def roundDiv (n d : Nat) : Nat :=
  let quotient := n / d
  let twice := 2 * (n % d)
  if twice < d ∨ twice = d ∧ quotient % 2 = 0 then quotient else quotient + 1

/-- A double-precision number. A finite one has the magnitude `mantissa * 2 ^ exponent / 2 ^ 1074`;
its mantissa has 53 bits, or fewer if the exponent is zero. -/
inductive Double
  | nan
  | infinity (negative : Bool)
  | finite (negative : Bool) (mantissa exponent : Nat)
deriving DecidableEq

namespace Double

/-- The number of magnitude `mantissa * 2 ^ exponent / 2 ^ 1074`, where the mantissa has at most
53 bits or is `2 ^ 53`. -/
def ofParts (negative : Bool) (mantissa exponent : Nat) : Double :=
  let carried := mantissa == 1 <<< 53
  let exponent := if carried then exponent + 1 else exponent
  if exponent > 2045 then infinity negative
  else finite negative (if carried then 1 <<< 52 else mantissa) exponent

def ofRatio (negative : Bool) (n d : Nat) : Double :=
  let scaled := n <<< 1074
  let exponent := (scaled / d).log2 - 52
  ofParts negative (roundDiv scaled (d <<< exponent)) exponent

def tenTo (n : Nat) : Nat := Nat.pow 10 n

/-- The number nearest to `digits * 10 ^ power`. Whatever is below `2 ^ (-1100)` is zero and
whatever is above `2 ^ 1100` is infinite; nothing so large or small is worked out. -/
def ofDecimal (negative : Bool) (digits : Nat) (power : Int) : Double :=
  if digits = 0 then finite negative 0 0
  else if 0 ≤ power then
    if 1100 * 1000 < power * 3321 then infinity negative
    else ofRatio negative (digits * tenTo power.natAbs) 1
  else if (digits.log2 + 1) * 1000 + power * 3321 < -1100 * 1000 then finite negative 0 0
  else ofRatio negative digits (tenTo power.natAbs)

def isZero : Double → Bool
  | finite _ mantissa _ => mantissa == 0
  | _ => false

end Double

end ZigAdvisor
