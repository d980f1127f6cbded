import ZigAdvisor.Json.Basic
import ZigAdvisor.Number.Written
import ZigAdvisor.Text.Quoted

/-!
# Shown values

How a value is shown inside a message. Strings are quoted, except for a string that is the whole
value.
-/

namespace ZigAdvisor.Json

mutual

def quoted : Json → Text
  | null => "None"
  | bool b => if b then "True" else "False"
  | int i => .ofInt i
  | float d => d.written
  | str t => t.quoted
  | arr [] => "[]"
  | arr (item :: items) => .concat ["[", quoted item, quotedItems items, "]"]
  | obj [] => "\x7b\x7d"
  | obj ((key, value) :: members) =>
    .concat ["\x7b", key.quoted, ": ", quoted value, quotedMembers members, "\x7d"]

def quotedItems : List Json → Text
  | [] => []
  | item :: items => .concat [", ", quoted item, quotedItems items]

def quotedMembers : List (Text × Json) → Text
  | [] => []
  | (key, value) :: members =>
    .concat [", ", key.quoted, ": ", quoted value, quotedMembers members]

end

/-- A value in a message; a string is shown as it is. -/
def shown : Json → Text
  | str t => t
  | j => j.quoted

end ZigAdvisor.Json
