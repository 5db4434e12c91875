/-
RecordStore.Url.Label -- labels of the name of a host

A label holds the characters that were asked for in one form: each is replaced
by what it counts as, and the result is in normal form (`foldLabel`).  A label
of ASCII characters is written as it is, any other in punycode and marked.  A
label that is already marked must stand for one that folding leaves alone.
-/
import RecordStore.Text.Joining
import RecordStore.Text.NormalForm
import RecordStore.Url.DomainTable
import RecordStore.Url.Punycode

namespace RecordStore.Url

set_option autoImplicit false

open RecordStore.Text

def isAscii (c : Char) : Bool := c.toNat < 0x80

/-- ASCII characters that no domain name may hold. -/
def isForbiddenInDomain (c : Char) : Bool :=
  c.toNat ≤ 0x20 || c.toNat == 0x7F
    || ['%', '#', '/', ':', '<', '>', '?', '@', '[', '\\', ']', '^', '|'].contains c

/-- What a text between full stops counts as; other forms of the full stop may divide it further. -/
def foldLabel (cs : List Char) : Option (List Char) :=
  if cs.all isAscii then some (cs.flatMap lowerChar)
  else (cs.mapM foldDomainChar).map fun chars => normalForm chars.flatten

/-! ## Which characters may stand where -/

/-- The two joiners, which show nothing and change how their neighbours are drawn. -/
def isNonJoiner (c : Char) : Bool := c.toNat == 0x200C
def isJoiner (c : Char) : Bool := c.toNat == 0x200D

/-- The first character that is not passed over joins in one of the ways. -/
def reaches (ways : List Joining) (cs : List Char) : Bool :=
  match cs.dropWhile fun c => joining c == .transparent with
  | c :: _ => ways.contains (joining c)
  | [] => false

/-- Joiners stand where they make a difference: both after a sign that silences a vowel, and the
one that keeps letters apart also between letters that would join.  `before` is read last character
first. -/
def hasGoodJoiners (before : List Char) : List Char → Bool
  | [] => true
  | c :: rest =>
    let afterVirama := match before with
      | b :: _ => combiningClass b == viramaClass
      | [] => false
    let betweenLetters := reaches [.left, .dual] before && reaches [.right, .dual] rest
    (if isJoiner c then afterVirama else !isNonJoiner c || afterVirama || betweenLetters)
      && hasGoodJoiners (c :: before) rest

/-- The longest label that can be written in punycode, and the longest text of one. -/
def maxLabelLength : Nat := 1000
def maxMarkedLength : Nat := 2000

/-- Whether a label can be written in punycode: it does not begin with a mark, its joiners stand
where they may, and it is not too long. -/
def isWritable (label : List Char) : Bool :=
  !(label.head?.any isMark) && hasGoodJoiners [] label && label.length ≤ maxLabelLength

/-! ## Labels -/

/-- A label as it is written in ASCII, and the characters that it stands for. -/
structure Label where
  written : List Char
  plain : List Char

namespace Label

/-- The mark of a label in punycode. -/
def mark : List Char := ['x', 'n', '-', '-']

/-- The label that text after the mark stands for. -/
def ofPunycode (text : List Char) : Option Label := do
  if !text.all isAscii || text.getLast? == some '-' || maxMarkedLength < text.length then none
  else
    let plain ← Punycode.decode text
    if foldLabel plain == some plain && !plain.all isAscii && isWritable plain then
      some ⟨mark ++ text, plain⟩
    else none

/-- The label of a text that was folded. -/
def ofFolded (cs : List Char) : Option Label :=
  if cs.any isForbiddenInDomain then none
  else if mark.isPrefixOf cs then ofPunycode (cs.drop mark.length)
  else if cs.all isAscii then some ⟨cs, cs⟩
  else if isWritable cs then some ⟨mark ++ Punycode.encode cs, cs⟩
  else none

end Label

end RecordStore.Url
