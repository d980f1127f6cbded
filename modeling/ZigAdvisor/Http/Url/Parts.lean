import ZigAdvisor.Text.Classes

/-!
# Parts of addresses

An address is cut at the first marks that may end a part; every text can be cut.
-/

namespace ZigAdvisor.Http.Url

def splitBefore (marks : List CodePoint) (t : Text) : Text × Text :=
  t.span fun c => !marks.contains c

def after? (mark : CodePoint) : Text → Option Text
  | [] => none
  | c :: rest => if c = mark then some rest else none

/-- Nothing, or a letter and then letters, digits, plus signs, points and dashes. -/
def isScheme : Text → Bool
  | [] => true
  | c :: rest =>
    c.isAsciiLetter && rest.all fun d =>
      d.isAsciiLetter || d.isAsciiDigit || d == '+' || d == '.' || d == '-'

structure Parts where
  scheme : Text
  authority : Text
  path : Text
  query : Option Text
  fragment : Option Text

def Parts.named (p : Parts) : List (String × Text) :=
  [("scheme", p.scheme), ("authority", p.authority), ("path", p.path)] ++
    p.query.toList.map (("query", ·)) ++ p.fragment.toList.map (("fragment", ·))

def Parts.written (p : Parts) : Text :=
  .concat [
    if p.scheme.isEmpty then [] else .concat [p.scheme, ":"],
    if p.authority.isEmpty then [] else .concat ["//", p.authority],
    p.path,
    match p.query with | some q => .concat ["?", q] | none => [],
    match p.fragment with | some f => .concat ["#", f] | none => []]

def Parts.ofText (t : Text) : Parts :=
  let (scheme, rest) :=
    let (word, rest) := splitBefore [':'] t
    match rest with
    | _ :: after => if isScheme word then (word, after) else ([], t)
    | [] => ([], t)
  let (authority, rest) :=
    match (after? '/' rest).bind (after? '/') with
    | some after => splitBefore ['/', '?', '#'] after
    | none => ([], rest)
  let (path, rest) := splitBefore ['?', '#'] rest
  let (query, rest) :=
    match after? '?' rest with
    | some after => let (query, rest) := splitBefore ['#'] after; (some query, rest)
    | none => (none, rest)
  { scheme, authority, path, query, fragment := after? '#' rest }

def splitAtLast? (mark : CodePoint) (t : Text) : Option (Text × Text) :=
  match t.reverse.span (· ≠ mark) with
  | (_, []) => none
  | (behind, _ :: front) => some (front.reverse, behind.reverse)

/-- The host at the front of an authority, and the port behind it. A host in brackets may hold
colons. -/
def splitHost (t : Text) : Text × Text :=
  let (host, rest) :=
    match after? '[' t, splitAtLast? ']' t with
    | some _, some (front, behind) => (front ++ [(']' : CodePoint)], behind)
    | _, _ => splitBefore [':'] t
  (host, (after? ':' rest).getD rest)

end ZigAdvisor.Http.Url
