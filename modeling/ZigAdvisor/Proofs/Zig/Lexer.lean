import Mathlib.Tactic
import ZigAdvisor.Text.Classes

/-!
# Tokens of source text

Source text is read code point by code point. Words are runs of letters and digits of ASCII and the
low line; a text between quotation marks is a string literal, or a name if an at sign stands in
front; remarks and the lines of multi-line literals are passed over. Every token ends with its line,
so a line can be read without the lines before it (`run_newline`), and a literal that its line does
not close, or that has something unreadable in it, is a broken token.
-/

namespace ZigAdvisor

theorem Text.ofString_ofList (l : List Char) :
    ofString (String.ofList l) = l.map CodePoint.ofChar := by
  rw [ofString, String.toList_ofList]

/-- Control characters, the separators of lines and surrogates stand in no literal as themselves. -/
def CodePoint.standsRaw (c : CodePoint) : Bool :=
  0x20 ≤ c.val && c.val != 0x7F && c.val != 0x85 && c.val != 0x2028 && c.val != 0x2029 &&
    !(0xD800 ≤ c.val && c.val ≤ 0xDFFF)

def CodePoint.isNameChar (c : CodePoint) : Bool :=
  c.isAsciiLetter || c.isAsciiDigit || c == ('_' : CodePoint)

namespace Zig

inductive Quotation
  /-- The text of a string literal. -/
  | string
  /-- A name that is no word. -/
  | name
  /-- A character; that it is only one is not checked. -/
  | character
deriving DecidableEq

def Quotation.mark : Quotation → CodePoint
  | string | name => .quote
  | character => .apostrophe

inductive Token
  | word (t : Text)
  | quoted (q : Quotation) (value : Text)
  /-- A quotation that cannot be read. -/
  | broken
  | dot
  | equals
  | comma
  | opening
  | closing
  /-- Any other code point. -/
  | sign (c : CodePoint)
deriving DecidableEq

namespace Token

def ofSign (c : CodePoint) : Token :=
  if c = '.' then dot
  else if c = '=' then equals
  else if c = ',' then comma
  else if c = '{' then opening
  else if c = '}' then closing
  else sign c

def isQuotation : Token → Bool
  | quoted .. | broken => true
  | _ => false

def isWord : Token → Bool
  | word _ => true
  | _ => false

end Token

/-! ## Escapes -/

def simpleEscapes : List (CodePoint × CodePoint) :=
  [('n', '\n'), ('r', '\r'), ('t', '\t'), (.backslash, .backslash), (.apostrophe, .apostrophe),
    (.quote, .quote)]

def hexNumber? (digits : Text) : Option Nat :=
  (digits.mapM CodePoint.hexValue?).map fun values => values.foldl (fun n d => 16 * n + d) 0

def character? (n : Nat) : Option CodePoint :=
  if n < 0xD800 ∨ 0xDFFF < n ∧ n < 0x110000 then some (.ofNat n) else none

def byteEscape? (digits : Text) : Option CodePoint :=
  if digits.length = 2 then
    (hexNumber? digits).bind fun n => if n < 0x80 then character? n else none
  else none

def bracedEscape? (digits : Text) : Option CodePoint :=
  match digits with
  | [] => none
  | c :: digits =>
    if c = '{' ∧ digits.getLast? = some ('}' : CodePoint) ∧ digits.length ≠ 1 then
      (hexNumber? digits.dropLast).bind character?
    else none

def escapeValue? : Text → Option CodePoint
  | [] => none
  | [c] => simpleEscapes.lookup c
  | kind :: digits =>
    if kind = 'x' then byteEscape? digits else if kind = 'u' then bracedEscape? digits else none

def bracedGoesOn : Text → Bool
  | [] => true
  | c :: digits => c == ('{' : CodePoint) && digits.all (·.hexValue?.isSome)

def escapeGoesOn : Text → Bool
  | [] => true
  | kind :: digits =>
    if kind = 'x' then digits.length < 2 && digits.all (·.hexValue?.isSome)
    else if kind = 'u' then bracedGoesOn digits
    else false

/-! ## Reading -/

inductive Lexer
  | between
  /-- In a word, after the given part. -/
  | inWord (t : Text)
  /-- Behind an at sign. -/
  | behindAt
  /-- Behind a solidus. -/
  | behindSolidus
  /-- Behind a backslash. -/
  | behindBackslash
  /-- In what is passed over up to the end of the line. -/
  | passing
  /-- In a quotation, after what was read of its value. -/
  | inside (q : Quotation) (value : Text)
  /-- In an escape of a quotation. -/
  | escaping (q : Quotation) (value escape : Text)
  /-- In a quotation that cannot be read. -/
  | spoilt
deriving DecidableEq

namespace Lexer

def start (c : CodePoint) : List Token × Lexer :=
  if c.isNameChar then ([], inWord [c])
  else if c = .quote then ([], inside .string [])
  else if c = .apostrophe then ([], inside .character [])
  else if c = '@' then ([], behindAt)
  else if c = '/' then ([], behindSolidus)
  else if c = .backslash then ([], behindBackslash)
  else if c = ' ' ∨ c = '\n' ∨ c = '\r' ∨ c = '\t' then ([], between)
  else ([.ofSign c], between)

def startAfter (token : Token) (c : CodePoint) : List Token × Lexer :=
  (token :: (start c).1, (start c).2)

/-- The tokens that a code point completes, and where it leads. -/
def step : Lexer → CodePoint → List Token × Lexer
  | between, c => start c
  | inWord t, c => if c.isNameChar then ([], inWord (t ++ [c])) else startAfter (.word t) c
  | behindAt, c => if c = .quote then ([], inside .name []) else startAfter (.sign '@') c
  | behindSolidus, c => if c = '/' then ([], passing) else startAfter (.sign '/') c
  | behindBackslash, c => if c = .backslash then ([], passing) else startAfter .broken c
  | passing, c => ([], if c = '\n' then between else passing)
  | inside q value, c =>
    if c = '\n' then ([.broken], between)
    else if c = q.mark then ([.quoted q value], between)
    else if c = .backslash then ([], escaping q value [])
    else ([], if c.standsRaw then inside q (value ++ [c]) else spoilt)
  | escaping q value escape, c =>
    if c = '\n' then ([.broken], between)
    else match escapeValue? (escape ++ [c]) with
      | some v => ([], inside q (value ++ [v]))
      | none =>
        ([], if escapeGoesOn (escape ++ [c]) then escaping q value (escape ++ [c]) else spoilt)
  | spoilt, c => if c = '\n' then ([.broken], between) else ([], spoilt)

def emitted (l : Lexer) : Text → List Token
  | [] => []
  | c :: t => (l.step c).1 ++ emitted (l.step c).2 t

def after (l : Lexer) (t : Text) : Lexer := t.foldl (fun l c => (l.step c).2) l

variable {l : Lexer} {a b t : Text} {c : CodePoint}

@[simp] theorem emitted_nil : emitted l [] = [] := rfl

theorem emitted_cons : emitted l (c :: t) = (l.step c).1 ++ emitted (l.step c).2 t := rfl

@[simp] theorem after_nil : after l [] = l := rfl

theorem after_cons : after l (c :: t) = after (l.step c).2 t := rfl

theorem after_append : after l (a ++ b) = after (after l a) b := List.foldl_append

theorem emitted_append : emitted l (a ++ b) = emitted l a ++ emitted (after l a) b := by
  induction a generalizing l with
  | nil => rfl
  | cons c a ih => rw [List.cons_append, emitted_cons, emitted_cons, ih, List.append_assoc]; rfl

theorem step_newline (l : Lexer) : (l.step '\n').2 = between := by
  cases l <;> rfl

/-- A line leaves nothing open. -/
theorem after_newline (l : Lexer) (t : Text) : after l (t ++ [('\n' : CodePoint)]) = between := by
  rw [after_append]
  exact step_newline _

end Lexer

def tokens (source : Text) : List Token := Lexer.emitted .between (source ++ [('\n' : CodePoint)])

end Zig

end ZigAdvisor
