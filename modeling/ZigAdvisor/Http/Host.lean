import ZigAdvisor.Number.Reading
import ZigAdvisor.Text.Lines

/-!
# Addresses of hosts

A host may be told by its address in version 4 or 6 of the internet protocol instead of a name.
-/

namespace ZigAdvisor.Http.Host

/-! ## Addresses in version 4 -/

def hasFourNumbers (t : Text) : Bool :=
  let parts := Text.pieces '.' t
  parts.length == 4 && parts.all fun p => !p.isEmpty && p.all CodePoint.isAsciiDigit

/-- A number up to 255 without needless zeros. -/
def isOctet (t : Text) : Bool :=
  !t.isEmpty && t.length ≤ 3 && t.all CodePoint.isAsciiDigit &&
    (t.length == 1 || t.head? != some ('0' : CodePoint)) && Text.digitsValue t ≤ 255

def isVersion4 (t : Text) : Bool :=
  let parts := Text.pieces '.' t
  parts.length == 4 && parts.all isOctet

/-! ## Addresses in version 6 -/

def isGroup (t : Text) : Bool := !t.isEmpty && t.length ≤ 4 && t.all (·.hexValue?.isSome)

/-- The groups with an address in version 4 at their end taken for two groups. -/
def withoutVersion4 (groups : List Text) : Option (List Text) :=
  match groups.getLast? with
  | some last =>
    if Text.contains last "." then
      if isVersion4 last then some (groups.dropLast ++ [("0" : Text), "0"]) else none
    else some groups
  | none => some groups

/-- Whether some groups, at least one of which is left out if `gap` is set, make up an address. -/
def areGroups (gap : Bool) (groups : List Text) : Bool :=
  groups.all isGroup && (if gap then groups.length ≤ 7 else groups.length == 8)

/-- The groups on the outer side of a gap: none if the colon of the gap is the end. -/
def outer (groups : List Text) : List Text := if groups = [[]] then [] else groups

/-- Whether the groups between the colons of a text make up an address. A group between two colons
may be empty once, and stands for those that are left out. -/
def haveAddress (groups : List Text) : Bool :=
  let inner := groups.tail.dropLast
  match inner.idxOf? [] with
  | none => areGroups false groups
  | some place =>
    areGroups true (outer (groups.take (place + 1)) ++ outer (groups.drop (place + 2)))

def isZone : Text → Bool
  | [] => true
  | _ :: zone => !zone.isEmpty && !zone.contains ('%' : CodePoint)

def isVersion6 (t : Text) : Bool :=
  let (address, zone) := t.span (· ≠ ('%' : CodePoint))
  let groups := Text.pieces ':' address
  isZone zone && 3 ≤ groups.length && (withoutVersion4 groups).any haveAddress

end ZigAdvisor.Http.Host
