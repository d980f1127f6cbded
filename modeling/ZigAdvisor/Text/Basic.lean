/-!
# Code points and text

A text is a list of Unicode code points. Surrogates are allowed to stand alone, because a JSON
string may hold them, so a text is more than a `String`. Lengths and positions count code points.
-/

namespace ZigAdvisor

/-- A Unicode code point, surrogates included. -/
structure CodePoint where
  val : Nat
  isLt : val < 0x110000
deriving DecidableEq

namespace CodePoint

def ofChar (c : Char) : CodePoint where
  val := c.toNat
  isLt := by
    rcases c.valid with h | h
    · have : c.val.toNat < 0xd800 := h
      unfold Char.toNat
      omega
    · exact h.2

instance : Coe Char CodePoint := ⟨ofChar⟩

/-- The code point with a given number, or the replacement character beyond the last one. -/
def ofNat (n : Nat) : CodePoint :=
  if h : n < 0x110000 then ⟨n, h⟩ else ⟨0xFFFD, by decide⟩

instance : Inhabited CodePoint := ⟨ofNat 0⟩

def apostrophe : CodePoint := ofNat 0x27

def quote : CodePoint := ofNat 0x22

def backslash : CodePoint := ofNat 0x5C

end CodePoint

abbrev Text := List CodePoint

namespace Text

def ofString (s : String) : Text := s.toList.map CodePoint.ofChar

instance : Coe String Text := ⟨ofString⟩

def concat (parts : List Text) : Text := parts.flatten

@[simp] theorem concat_nil : concat [] = [] := rfl

@[simp] theorem concat_cons (part : Text) (parts : List Text) :
    concat (part :: parts) = part ++ concat parts := rfl

def join (separator : Text) (parts : List Text) : Text := separator.intercalate parts

def provided (condition : Bool) (piece : Text) : List Text := if condition then [piece] else []

def ofLines (lines : List String) : Text := lines.flatMap fun l => ofString l ++ ofString "\n"

def startsWith (t word : Text) : Bool := word.isPrefixOf t

def contains : Text → Text → Bool
  | [], word => word.isEmpty
  | c :: rest, word => startsWith (c :: rest) word || contains rest word

def registered? {α : Type} (registry : List (String × α)) (t : Text) : Option α :=
  (registry.find? fun e => ofString e.1 == t).map Prod.snd

def ofNat (n : Nat) : Text := (Nat.toDigits 10 n).map CodePoint.ofChar

def ofInt (i : Int) : Text :=
  if i < 0 then ('-' : CodePoint) :: ofNat i.natAbs else ofNat i.natAbs

def hexDigit (n : Nat) : CodePoint :=
  .ofNat (if n < 10 then 0x30 + n else 0x57 + n)

def hex : (width : Nat) → Nat → Text
  | 0, _ => []
  | width + 1, n => hexDigit ((n >>> (4 * width)) % 16) :: hex width n

end Text

end ZigAdvisor
