import ZigAdvisor.Text.Classes

/-!
# Names in generated source

A free-form name becomes a variable of generated source, or the key of a field.
-/

namespace ZigAdvisor.Zig

/-- A variable's name after `name`: whatever is no word character becomes a low line, and a low
line is put before a leading digit. -/
def identifier (name : Text) : Text :=
  match name.map fun c => if c.isWord then c else ('_' : CodePoint) with
  | [] => "_"
  | c :: rest => if c.isDigit then ('_' : CodePoint) :: c :: rest else c :: rest

/-- A letter of ASCII or the low line, and after it also digits. -/
def isPlainName : Text → Bool
  | [] => false
  | c :: rest =>
    (c.isAsciiLetter || c == '_') && rest.all fun d => d.isAsciiLetter || d.isAsciiDigit || d == '_'

def withoutFinalNewline (t : Text) : Text :=
  if t.getLast? = some ('\n' : CodePoint) then t.dropLast else t

/-- The access to a field of the given name. The name is quoted unless it is plain; a line feed
at its end is not looked at. -/
def field (name : Text) : Text :=
  if isPlainName name || isPlainName (withoutFinalNewline name) then .concat [".", name]
  else .concat [".@\"", name, "\""]

end ZigAdvisor.Zig
