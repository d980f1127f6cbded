import ZigAdvisor.Json.Basic
import ZigAdvisor.Number.Reading

/-!
# Reading JSON

A reader takes what it reads from the front of a text and gives back the rest. It accepts the
grammar of JSON, and besides words for the infinities and for what is no number. Values may be
nested up to a limit, which whoever reads passes on, and whole numbers may have so many digits.
-/

namespace ZigAdvisor.Json

inductive Problem
  | noValue
  | noKey
  | noColon
  | noComma
  | extraData
  | unclosedString
  | controlCharacter
  | unknownEscape
  | badUnitEscape
  | byteOrderMark
deriving DecidableEq

inductive Fault
  /-- The text is not JSON; `rest` is what follows the place where this shows. -/
  | malformed (problem : Problem) (rest : Text)
  /-- A whole number with too many digits. -/
  | longInteger (digits : Nat)
  | deepArray
  | deepObject

/-- What remains to be read is the second part. -/
abbrev Reading (α : Type) := Except Fault (α × Text)

def isSpace (c : CodePoint) : Bool :=
  c.val == 0x20 || c.val == 0x9 || c.val == 0xA || c.val == 0xD

def skipSpace (t : Text) : Text := t.dropWhile isSpace

/-! ## Strings -/

def unit? (a b c d : CodePoint) : Option Nat := do
  return (((← a.hexValue?) * 16 + (← b.hexValue?)) * 16 + (← c.hexValue?)) * 16 + (← d.hexValue?)

/-- The second half of a pair of surrogates that follows an escape. At least one code point has to
follow it. -/
def lowSurrogate? : Text → Option Nat
  | s :: u :: a :: b :: c :: d :: _ :: _ =>
    if s = .backslash ∧ u = 'u' then
      (unit? a b c d).filter fun n => 0xDC00 ≤ n ∧ n ≤ 0xDFFF
    else none
  | _ => none

/-- The code point of an escape by number and how many code points after the letter it takes. At
least one code point has to follow the digits. -/
def readUnitEscape (fromLetter afterLetter : Text) : Except Fault (CodePoint × Nat) :=
  match afterLetter with
  | a :: b :: c :: d :: e :: rest =>
    match unit? a b c d with
    | none => .error (.malformed .badUnitEscape fromLetter)
    | some high =>
      if 0xD800 ≤ high ∧ high ≤ 0xDBFF then
        match lowSurrogate? (e :: rest) with
        | some low => .ok (.ofNat (0x10000 + (high - 0xD800) * 0x400 + (low - 0xDC00)), 10)
        | none => .ok (.ofNat high, 4)
      else .ok (.ofNat high, 4)
  | _ => .error (.malformed .badUnitEscape fromLetter)

def shortEscapeValue? (letter : CodePoint) : Option CodePoint :=
  if letter = .quote ∨ letter = .backslash ∨ letter = '/' then some letter
  else if letter = 'b' then some '\x08'
  else if letter = 'f' then some '\x0c'
  else if letter = 'n' then some '\n'
  else if letter = 'r' then some '\r'
  else if letter = 't' then some '\t'
  else none

/-- The code point of an escape, and how many code points it takes after the backslash. `opening`
is the text from the quote that opens the string. -/
def readEscape (opening fromBackslash afterBackslash : Text) : Except Fault (CodePoint × Nat) :=
  match afterBackslash with
  | [] => .error (.malformed .unclosedString opening)
  | letter :: rest =>
    if letter = 'u' then
      (readUnitEscape afterBackslash rest).map fun (c, size) => (c, size + 1)
    else match shortEscapeValue? letter with
      | some c => .ok (c, 1)
      | none => .error (.malformed .unknownEscape fromBackslash)

/-- The rest of a string up to its closing quote; `skip` code points belong to the escape before. -/
def readChars (opening : Text) : (skip : Nat) → Text → Reading Text
  | _, [] => .error (.malformed .unclosedString opening)
  | skip + 1, _ :: rest => readChars opening skip rest
  | 0, c :: rest =>
    if c = .quote then .ok ([], rest)
    else if c = .backslash then
      match readEscape opening (c :: rest) rest with
      | .error fault => .error fault
      | .ok (point, size) => (readChars opening size rest).map fun (t, rest) => (point :: t, rest)
    else if c.val < 0x20 then .error (.malformed .controlCharacter (c :: rest))
    else (readChars opening 0 rest).map fun (t, rest) => (c :: t, rest)

/-- A string whose opening quote has been read; `opening` is the text from that quote on. -/
def readString (opening afterQuote : Text) : Reading Text := readChars opening 0 afterQuote

/-! ## Numbers -/

/-- The digits of a whole number: a zero alone, or digits that do not start with zero. -/
def splitWhole : Text → Text × Text
  | [] => ([], [])
  | c :: rest => if c = '0' then ([c], rest) else Text.splitDigits (c :: rest)

def splitFraction : Text → Text × Text
  | [] => ([], [])
  | c :: rest =>
    if c = '.' then
      match Text.splitDigits rest with
      | ([], _) => ([], c :: rest)
      | (digits, after) => (digits, after)
    else ([], c :: rest)

def splitPower : Text → Option Int × Text
  | [] => (none, [])
  | c :: rest =>
    if c = 'e' ∨ c = 'E' then
      let (negative, unsigned) := Text.splitSign rest
      match Text.splitDigits unsigned with
      | ([], _) => (none, c :: rest)
      | (digits, after) =>
        let size : Int := Text.digitsValue digits
        (some (if negative then -size else size), after)
    else (none, c :: rest)

/-- A number without its sign; `start` is the text from the sign on. -/
def readUnsigned (negative : Bool) (start unsigned : Text) : Reading Json :=
  let (whole, rest) := splitWhole unsigned
  if whole.isEmpty then .error (.malformed .noValue start)
  else
    let (fraction, rest) := splitFraction rest
    let (power, rest) := splitPower rest
    if fraction.isEmpty && power.isNone then
      if whole.length > Text.maxDigits then .error (.longInteger whole.length)
      else
        let size : Int := Text.digitsValue whole
        .ok (int (if negative then -size else size), rest)
    else
      let digits := Text.digitsValue (whole ++ fraction)
      .ok (float (.ofDecimal negative digits (power.getD 0 - fraction.length)), rest)

def readNumber (t : Text) : Reading Json :=
  match t with
  | [] => .error (.malformed .noValue t)
  | c :: rest => if c = '-' then readUnsigned true t rest else readUnsigned false t t

/-! ## Values -/

def words : List (Text × Json) := [
  ("null", null), ("true", bool true), ("false", bool false),
  ("NaN", float .nan), ("Infinity", float (.infinity false)),
  ("-Infinity", float (.infinity true))]

def readScalar (t : Text) : Reading Json :=
  match t with
  | [] => .error (.malformed .noValue t)
  | c :: rest =>
    if c = .quote then (readString t rest).map fun (s, rest) => (str s, rest)
    else match words.find? fun w => t.startsWith w.1 with
      | some (word, value) => .ok (value, t.drop word.length)
      | none => readNumber t

/-- Items up to a closing bracket, of which the first one has to follow at once. There are at most
`most` of them. -/
def readItems {α : Type} (readItem : Text → Reading α) (close : CodePoint) :
    (most : Nat) → Text → Reading (List α)
  | 0, t => .error (.malformed .noValue t)
  | most + 1, t =>
    match readItem t with
    | .error fault => .error fault
    | .ok (item, rest) =>
      match skipSpace rest with
      | [] => .error (.malformed .noComma [])
      | c :: rest =>
        if c = close then .ok ([item], rest)
        else if c = ',' then
          (readItems readItem close most (skipSpace rest)).map fun (items, rest) =>
            (item :: items, rest)
        else .error (.malformed .noComma (c :: rest))

/-- What stands between two brackets, the opening one read. Each item takes a code point, so there
are no more items than code points. -/
def readEnclosed {α : Type} (readItem : Text → Reading α) (close : CodePoint) (t : Text) :
    Reading (List α) :=
  match skipSpace t with
  | [] => readItems readItem close 1 []
  | c :: rest =>
    if c = close then .ok ([], rest)
    else readItems readItem close (c :: rest).length (c :: rest)

def readMember (readValue : Text → Reading Json) (t : Text) : Reading (Text × Json) :=
  match t with
  | [] => .error (.malformed .noKey t)
  | c :: rest =>
    if c = .quote then
      match readString t rest with
      | .error fault => .error fault
      | .ok (key, rest) =>
        match skipSpace rest with
        | [] => .error (.malformed .noColon [])
        | c :: rest =>
          if c = ':' then (readValue (skipSpace rest)).map fun (value, rest) => ((key, value), rest)
          else .error (.malformed .noColon (c :: rest))
    else .error (.malformed .noKey t)

/-- A value in which arrays and objects are nested at most `depth` deep. -/
def readValue : (depth : Nat) → Text → Reading Json
  | _, [] => readScalar []
  | 0, c :: rest =>
    if c = '[' then .error .deepArray
    else if c = '\x7b' then .error .deepObject
    else readScalar (c :: rest)
  | depth + 1, c :: rest =>
    if c = '[' then
      (readEnclosed (readValue depth) ']' rest).map fun (items, rest) => (arr items, rest)
    else if c = '\x7b' then
      (readEnclosed (readMember (readValue depth)) '\x7d' rest).map fun (members, rest) =>
        (obj (collect members), rest)
    else readScalar (c :: rest)

/-- The value that a whole text stands for. No value is nested deeper than its text is long, so this
is no limit where none is passed on. -/
def parse (t : Text) (depth : Nat := t.length) : Except Fault Json :=
  match readValue depth (skipSpace t) with
  | .error fault => .error fault
  | .ok (value, rest) =>
    match skipSpace rest with
    | [] => .ok value
    | extra => .error (.malformed .extraData extra)

/-- The value of a text that must not begin with a byte order mark, as one that was decoded
elsewhere. -/
def parseText (t : Text) (depth : Nat) : Except Fault Json :=
  if t.head? = some (.ofNat 0xFEFF) then .error (.malformed .byteOrderMark t) else parse t depth

theorem parseText_nil (depth : Nat) : parseText [] depth = .error (.malformed .noValue []) := by
  cases depth <;> rfl

/-! ## Messages -/

def Problem.message : Problem → String
  | noValue => "Expecting value"
  | noKey => "Expecting property name enclosed in double quotes"
  | noColon => "Expecting ':' delimiter"
  | noComma => "Expecting ',' delimiter"
  | extraData => "Extra data"
  | unclosedString => "Unterminated string starting at"
  | controlCharacter => "Invalid control character at"
  | unknownEscape => "Invalid \\escape"
  | badUnitEscape => "Invalid \\uXXXX escape"
  | byteOrderMark => "Unexpected UTF-8 BOM (decode using utf-8-sig)"

/-- A place in a text by line and column, counted from one, and by index. -/
def place (before : Text) : Text :=
  let line := before.count ('\n' : CodePoint) + 1
  let column := (before.reverse.takeWhile (· ≠ ('\n' : CodePoint))).length + 1
  .concat ["line ", .ofNat line, " column ", .ofNat column, " (char ", .ofNat before.length, ")"]

def Fault.message (whole : Text) : Fault → Text
  | malformed problem rest =>
    .concat [problem.message, ": ", place (whole.take (whole.length - rest.length))]
  | longInteger digits =>
    .concat ["Exceeds the limit (", .ofNat Text.maxDigits,
      " digits) for integer string conversion: value has ", .ofNat digits,
      " digits; use sys.set_int_max_str_digits() to increase the limit"]
  | deepArray =>
    "maximum recursion depth exceeded while decoding a JSON array from a unicode string"
  | deepObject =>
    "maximum recursion depth exceeded while decoding a JSON object from a unicode string"

end ZigAdvisor.Json
