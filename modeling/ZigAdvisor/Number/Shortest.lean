import ZigAdvisor.Number.Double

/-!
# Shortest decimals

The decimal with the fewest digits among those that are nearer to a number than to its neighbours,
and of these the one nearest to the number. Both ends of the interval belong to it if the mantissa
is even.
-/

namespace ZigAdvisor

/-- A positive decimal `0.d₁d₂d₃… * 10 ^ point`. -/
structure Decimal where
  digits : List Nat
  point : Int

namespace Double

def digitsOf (n : Nat) : List Nat := (Nat.toDigits 10 n).map fun c => c.toNat - 0x30

/-- A positive number with the interval of what is rounded to it, over a common denominator. -/
structure Interval where
  low : Nat
  value : Nat
  high : Nat
  denominator : Nat
  /-- Whether the ends belong to the interval. -/
  closed : Bool

/-- The interval around a mantissa with an exponent. Below a power of two the neighbours are
twice as dense. -/
def interval (mantissa exponent : Nat) : Interval where
  low := (4 * mantissa - if mantissa = 1 <<< 52 ∧ 0 < exponent then 1 else 2) <<< exponent
  value := (4 * mantissa) <<< exponent
  high := (4 * mantissa + 2) <<< exponent
  denominator := 1 <<< 1076
  closed := mantissa % 2 = 0

namespace Interval

/-- The power of ten just above the number: it is at least `10 ^ (point - 1)` and below
`10 ^ point`. -/
def point (i : Interval) : Int :=
  let whole := i.value / i.denominator
  if whole = 0 then 1 - ((digitsOf (i.denominator / i.value)).length : Int)
  else (digitsOf whole).length

def inUnits (i : Interval) (power : Int) : Interval :=
  if 0 ≤ power then { i with denominator := i.denominator * tenTo power.natAbs }
  else
    let scale := tenTo power.natAbs
    { i with low := i.low * scale, value := i.value * scale, high := i.high * scale }

def holds (i : Interval) (n : Nat) : Bool :=
  let scaled := n * i.denominator
  if i.closed then i.low ≤ scaled && scaled ≤ i.high else i.low < scaled && scaled < i.high

def nearest? (i : Interval) : Option Nat :=
  let below := i.value / i.denominator
  match i.holds below, i.holds (below + 1) with
  | true, true => some (roundDiv i.value i.denominator)
  | true, false => some below
  | false, true => some (below + 1)
  | false, false => none

/-- The decimal of `count` digits or more, at most `count + more`, that is first found. -/
def shortestFrom (i : Interval) : (more count : Nat) → Decimal
  | 0, count => ⟨digitsOf (roundDiv (i.inUnits (i.point - count)).value
      (i.inUnits (i.point - count)).denominator), i.point⟩
  | more + 1, count =>
    match (i.inUnits (i.point - count)).nearest? with
    | some n =>
      -- a carry into a further place moves the point
      if n = tenTo count then ⟨[1], i.point + 1⟩ else ⟨digitsOf n, i.point⟩
    | none => shortestFrom i more (count + 1)

end Interval

/-- The shortest decimal of a positive mantissa with an exponent; seventeen digits are enough. -/
def shortest (mantissa exponent : Nat) : Decimal :=
  (interval mantissa exponent).shortestFrom 16 1

end Double

end ZigAdvisor
