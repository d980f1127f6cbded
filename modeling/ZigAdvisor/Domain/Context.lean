import ZigAdvisor.Domain.JoiningTable
import ZigAdvisor.Domain.LabelTable
import ZigAdvisor.Domain.ScriptTable
import ZigAdvisor.Text.Composition

/-!
# Code points in their context

Some code points are no part of a label by themselves, but change or part the letters next to them.
The two joiners, which are not seen, may stand behind a virama, and one of them also between letters
that would be joined without it. Punctuation stands among letters of its own script. In all that
follows, `before` is the part of the label in front of the code point, given backwards.
-/

namespace ZigAdvisor.Domain.Context

/-! ## Joiners -/

def nonJoiner : CodePoint := .ofNat 0x200C

def joiner : CodePoint := .ofNat 0x200D

def isJoiner (c : CodePoint) : Bool := c = nonJoiner || c = joiner

def isVirama (c : CodePoint) : Bool := c.combiningClass == 9

/-- Whether too little is known of a code point for a joiner to stand behind it. -/
def isUnknown (c : CodePoint) : Bool := lateTable.contains c.val || unnamedTable.contains c.val

def meetsLetter (one other : Ranges) (t : Text) : Bool :=
  (t.find? fun c => !transparentTable.contains c.val).any fun c =>
    one.contains c.val || other.contains c.val

def wouldJoin (before after : Text) : Bool :=
  meetsLetter joinsAfterTable joinsBothTable before &&
    meetsLetter joinsBeforeTable joinsBothTable after

def joinerAllowed (c : CodePoint) (before after : Text) : Bool :=
  before.head?.any isVirama ||
    (c = nonJoiner && !before.head?.any isUnknown && wouldJoin before after)

/-! ## Punctuation -/

def isArabicDigit (c : CodePoint) : Bool := 0x660 ≤ c.val && c.val ≤ 0x669

def isPersianDigit (c : CodePoint) : Bool := 0x6F0 ≤ c.val && c.val ≤ 0x6F9

/-- The punctuation that labels may hold at all, and the digits that do not go together. -/
def isPunctuation (c : CodePoint) : Bool :=
  [0xB7, 0x375, 0x5F3, 0x5F4, 0x30FB].contains c.val || isArabicDigit c || isPersianDigit c

def isJapanese (c : CodePoint) : Bool :=
  hiraganaTable.contains c.val || katakanaTable.contains c.val || hanTable.contains c.val

/-- Whether punctuation may stand between two parts of a label: a middle dot between two small
letters l, a numeral sign before a Greek letter, a geresh or gershayim behind a Hebrew letter, a
Katakana middle dot in a label with Japanese letters, and Arabic digits of one kind only. -/
def punctuationAllowed (c : CodePoint) (before after : Text) : Bool :=
  let l : CodePoint := 'l'
  if c.val = 0xB7 then before.head? = some l && after.head? = some l
  else if c.val = 0x375 then after.head?.any fun d => greekTable.contains d.val
  else if c.val = 0x5F3 ∨ c.val = 0x5F4 then before.head?.any fun d => hebrewTable.contains d.val
  else if c.val = 0x30FB then before.any isJapanese || after.any isJapanese
  else if isArabicDigit c then !(before.any isPersianDigit || after.any isPersianDigit)
  else !(before.any isArabicDigit || after.any isArabicDigit)

end ZigAdvisor.Domain.Context
