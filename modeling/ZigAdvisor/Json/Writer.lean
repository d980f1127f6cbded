import ZigAdvisor.Json.Basic
import ZigAdvisor.Number.Written

/-!
# Written JSON

A value is written on one line, or spread over lines with two blanks for each level. The text is in
ASCII: other code points are written as escapes, those above the basic plane as two. A writer that
goes only so deep stops in front of what is nested deeper, and what it wrote up to there stays.
-/

namespace ZigAdvisor.Json

inductive Layout
  | oneLine
  | indented (depth : Nat)
deriving DecidableEq

namespace Layout

def deeper : Layout → Layout
  | oneLine => oneLine
  | indented depth => indented (depth + 1)

def lead : Layout → Text
  | oneLine => []
  | indented depth => ('\n' : CodePoint) :: List.replicate (2 * depth) (' ' : CodePoint)

def separator : Layout → Text
  | oneLine => ", "
  | indented depth => (',' : CodePoint) :: (indented depth).lead

end Layout

def unitEscape (n : Nat) : Text := .concat ["\\u", Text.hex 4 n]

def shortEscape? (c : CodePoint) : Option CodePoint :=
  if c = .quote ∨ c = .backslash then some c
  else if c = '\x08' then some 'b'
  else if c = '\t' then some 't'
  else if c = '\n' then some 'n'
  else if c = '\x0c' then some 'f'
  else if c = '\r' then some 'r'
  else none

def shortEscapes : List (CodePoint × CodePoint) :=
  [(.quote, .quote), (.backslash, .backslash), ('\x08', 'b'), ('\t', 't'), ('\n', 'n'),
    ('\x0c', 'f'), ('\r', 'r')]

theorem mem_shortEscapes {c letter : CodePoint} (h : shortEscape? c = some letter) :
    (c, letter) ∈ shortEscapes := by
  unfold shortEscape? at h
  unfold shortEscapes
  grind

def writePoint (c : CodePoint) : Text :=
  match shortEscape? c with
  | some letter => [.backslash, letter]
  | none =>
    if 0x20 ≤ c.val ∧ c.val ≤ 0x7E then [c]
    else if c.val < 0x10000 then unitEscape c.val
    else
      let offset := c.val - 0x10000
      unitEscape (0xD800 + offset / 0x400) ++ unitEscape (0xDC00 + offset % 0x400)

def writeString (t : Text) : Text := .quote :: (t.flatMap writePoint ++ [.quote])

/-- A number that is not whole. Infinities and what is no number have words of their own. -/
def writeDouble : Double → Text
  | .nan => "NaN"
  | .infinity negative => if negative then "-Infinity" else "Infinity"
  | d => d.written

mutual

def write (layout : Layout) : Json → Text
  | null => "null"
  | bool b => if b then "true" else "false"
  | int i => .ofInt i
  | float d => writeDouble d
  | str t => writeString t
  | arr [] => "[]"
  | arr (item :: items) =>
    .concat ["[", layout.deeper.lead, write layout.deeper item, writeItems layout.deeper items,
      layout.lead, "]"]
  | obj [] => "\x7b\x7d"
  | obj ((key, value) :: members) =>
    .concat ["\x7b", layout.deeper.lead, writeString key, ": ", write layout.deeper value,
      writeMembers layout.deeper members, layout.lead, "\x7d"]

def writeItems (layout : Layout) : List Json → Text
  | [] => []
  | item :: items => .concat [layout.separator, write layout item, writeItems layout items]

def writeMembers (layout : Layout) : List (Text × Json) → Text
  | [] => []
  | (key, value) :: members =>
    .concat [layout.separator, writeString key, ": ", write layout value,
      writeMembers layout members]

end

def writeMember (layout : Layout) (m : Text × Json) : Text :=
  writeString m.1 ++ (": " ++ write layout m.2)

theorem writeItems_eq (layout : Layout) (items : List Json) :
    writeItems layout items = items.flatMap fun j => layout.separator ++ write layout j := by
  induction items with
  | nil => rw [writeItems, List.flatMap_nil]
  | cons item items ih =>
    rw [writeItems, ih, List.flatMap_cons, List.append_assoc]
    simp

theorem writeMembers_eq (layout : Layout) (members : List (Text × Json)) :
    writeMembers layout members =
      members.flatMap fun m => layout.separator ++ writeMember layout m := by
  induction members with
  | nil => rw [writeMembers, List.flatMap_nil]
  | cons m members ih =>
    obtain ⟨key, value⟩ := m
    rw [writeMembers, ih, List.flatMap_cons, writeMember]
    simp

def line (j : Json) : Text := write .oneLine j

def spread (j : Json) : Text := write (.indented 0) j

/-! ## Writing up to a depth -/

structure Written where
  text : Text
  /-- Whether the writer came to the end. -/
  complete : Bool

namespace Written

def ofText (t : Text) : Written := ⟨t, true⟩

/-- One piece behind another, which is not begun if the first one was not finished. -/
def andThen (w next : Written) : Written :=
  if w.complete then ⟨w.text ++ next.text, next.complete⟩ else w

def concat (ws : List Written) : Written := ws.foldr andThen (ofText [])

end Written

mutual

/-- A value in some layout, up to the first array or object that is nested more than `depth`
deep. -/
def writeWithin (layout : Layout) (depth : Nat) : Json → Written
  | arr items =>
    match depth, items with
    | 0, _ => ⟨[], false⟩
    | _ + 1, [] => .ofText "[]"
    | depth + 1, item :: items =>
      .concat [.ofText "[", .ofText layout.deeper.lead, writeWithin layout.deeper depth item,
        writeItemsWithin layout.deeper depth items, .ofText layout.lead, .ofText "]"]
  | obj members =>
    match depth, members with
    | 0, _ => ⟨[], false⟩
    | _ + 1, [] => .ofText "\x7b\x7d"
    | depth + 1, (key, value) :: members =>
      .concat [.ofText "\x7b", .ofText layout.deeper.lead, .ofText (writeString key),
        .ofText ": ", writeWithin layout.deeper depth value,
        writeMembersWithin layout.deeper depth members, .ofText layout.lead, .ofText "\x7d"]
  | j => .ofText (write layout j)

def writeItemsWithin (layout : Layout) (depth : Nat) : List Json → Written
  | [] => .ofText []
  | item :: items =>
    .concat [.ofText layout.separator, writeWithin layout depth item,
      writeItemsWithin layout depth items]

def writeMembersWithin (layout : Layout) (depth : Nat) : List (Text × Json) → Written
  | [] => .ofText []
  | (key, value) :: members =>
    .concat [.ofText layout.separator, .ofText (writeString key), .ofText ": ",
      writeWithin layout depth value, writeMembersWithin layout depth members]

end

end ZigAdvisor.Json
