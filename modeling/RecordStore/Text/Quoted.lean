/-
RecordStore.Text.Quoted -- texts shown in messages

A shown text stands between double quotes.  A quote and a backslash are escaped,
the common controls have a letter of their own, and every other character that
is not printable is given by its number in braces.
-/
import RecordStore.Text.Hex
import RecordStore.Text.Printable

namespace RecordStore.Text

set_option autoImplicit false

/-- One character of a shown text. -/
def showChar (c : Char) : List Char :=
  if c = Char.ofNat 0 then ['\\', '0']
  else if c = '\t' then ['\\', 't']
  else if c = '\r' then ['\\', 'r']
  else if c = '\n' then ['\\', 'n']
  else if c = '"' then ['\\', '"']
  else if c = '\\' then ['\\', '\\']
  else if isPrintable c then [c]
  else ['\\', 'u', '\x7b'] ++ Hex.ofNat c.toNat ++ ['\x7d']

/-- The text between double quotes, with escapes. -/
def quoted (s : String) : String :=
  String.ofList ('"' :: s.toList.flatMap showChar ++ ['"'])

end RecordStore.Text
