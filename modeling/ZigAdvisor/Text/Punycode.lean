import ZigAdvisor.Text.Ascii
import ZigAdvisor.Text.Classes

/-!
# Punycode

A text in ASCII that stands for any other: the code points of ASCII as they are, and then the
others in ascending order, each told by how far it is from the one before in a walk over all
places and code points. The distances have digits in base 36, the least one first, and the digit
that ends a distance is known by a threshold that adapts to the distances so far.
-/

namespace ZigAdvisor.Punycode

/-! ## Encoding -/

def digit (n : Nat) : CodePoint := .ofNat (if n < 26 then 0x61 + n else 0x30 + (n - 26))

/-- The threshold of the digit at a place, which is given as a multiple of 36. -/
def threshold (bias place : Nat) : Nat := max 1 (min 26 (place - bias))

theorem threshold_pos (bias place : Nat) : 0 < threshold bias place := by
  unfold threshold
  omega

def digits (bias place distance : Nat) : Text :=
  let t := threshold bias place
  if distance < t then [digit distance]
  else
    digit (t + (distance - t) % (36 - t)) ::
      digits bias (place + 36) ((distance - t) / (36 - t))
termination_by distance
decreasing_by
  have := threshold_pos bias place
  have := Nat.div_le_self (distance - threshold bias place) (36 - threshold bias place)
  omega

def biasOf (distance : Nat) : Nat :=
  if distance ≤ 455 then 36 * distance / (distance + 38) else 36 + biasOf (distance / 35)
termination_by distance

/-- The bias after a distance; `written` code points have been written then. -/
def adapt (first : Bool) (distance written : Nat) : Nat :=
  let damped := if first then distance / 700 else distance / 2
  biasOf (damped + damped / written)

structure Walk where
  output : Text
  bias : Nat
  distance : Nat
  written : Nat
  /-- Whether nothing but ASCII has been written. -/
  first : Bool

def Walk.pass (n : Nat) (w : Walk) (c : CodePoint) : Walk :=
  if c.val < n then { w with distance := w.distance + 1 }
  else if c.val = n then
    { output := w.output ++ digits w.bias 36 w.distance
      bias := adapt w.first w.distance (w.written + 1)
      distance := 0
      written := w.written + 1
      first := false }
  else w

/-- The rounds of some ascending code points, after that of `previous`. -/
def rounds (t : Text) : (previous : Nat) → List Nat → Walk → Walk
  | _, [], w => w
  | previous, n :: rest, w =>
    let skipped := (n - previous - 1) * (w.written + 1)
    let w := t.foldl (Walk.pass n) { w with distance := w.distance + skipped }
    rounds t n rest { w with distance := w.distance + 1 }

def encode (t : Text) : Text :=
  let plain := t.filter CodePoint.isAscii
  let others := ((t.map CodePoint.val).filter (0x80 ≤ ·)).eraseDups.mergeSort
  let w := rounds t 0x7F others ⟨[], 72, 0, plain.length, true⟩
  if plain.isEmpty then w.output else .concat [plain, "-", w.output]

/-! ## Decoding -/

def digitValue? (c : CodePoint) : Option Nat :=
  if c.isAsciiLetter then some (c.lowerAscii.val - 0x61)
  else if c.isAsciiDigit then some (c.val - 0x30 + 26)
  else none

def distance? (bias place weight : Nat) : Text → Option (Nat × Text)
  | [] => none
  | c :: rest =>
    match digitValue? c with
    | none => none
    | some n =>
      let t := threshold bias place
      if n < t then some (n * weight, rest)
      else
        (distance? bias (place + 36) (weight * (36 - t)) rest).map fun (more, rest) =>
          (n * weight + more, rest)

theorem length_lt_of_distance? {bias place weight distance : Nat} {t rest : Text}
    (h : distance? bias place weight t = some (distance, rest)) : rest.length < t.length := by
  induction t generalizing place weight distance with
  | nil => simp [distance?] at h
  | cons c t ih =>
    unfold distance? at h
    split at h
    · simp at h
    · dsimp only at h
      split at h
      · obtain ⟨-, rfl⟩ := by simpa using h
        simp
      · obtain ⟨⟨more, rest'⟩, hr, hm⟩ := Option.map_eq_some_iff.1 h
        obtain ⟨-, rfl⟩ := Prod.mk.inj hm
        exact Nat.lt_succ_of_lt (ih hr)

/-- Puts the code points told by the distances into a text. `place` is where the walk goes on in
the round of the code point `n`. -/
def insertAll? (text : Text) (n place bias : Nat) (first : Bool) (t : Text) : Option Text :=
  if t.isEmpty then some text
  else
    match h : distance? bias 36 1 t with
    | none => none
    | some (distance, rest) =>
      let written := text.length + 1
      let n := n + (place + distance) / written
      let place := (place + distance) % written
      if n < 0x110000 then
        insertAll? (text.take place ++ .ofNat n :: text.drop place) n (place + 1)
          (adapt first distance written) false rest
      else none
termination_by t.length
decreasing_by exact length_lt_of_distance? h

def decode? (t : Text) : Option Text :=
  match t.reverse.span (· ≠ ('-' : CodePoint)) with
  | (_, []) => insertAll? [] 0x80 0 72 true t
  | (digits, _ :: plain) => insertAll? plain.reverse 0x80 0 72 true digits.reverse

end ZigAdvisor.Punycode
