/-
RecordStore.Json.Printer -- JSON text without blanks

Only the quote, the backslash and the controls are escaped in strings; five
controls have a letter and the rest take four digits.
-/
import RecordStore.Json.Basic
import RecordStore.Json.Decimal
import RecordStore.Text.Hex

namespace RecordStore.Json

set_option autoImplicit false

open RecordStore.Text

/-- One character of a string. -/
def escapeChar (c : Char) : List Char :=
  if c = '"' then ['\\', '"']
  else if c = '\\' then ['\\', '\\']
  else if c.toNat = 8 then ['\\', 'b']
  else if c.toNat = 9 then ['\\', 't']
  else if c.toNat = 10 then ['\\', 'n']
  else if c.toNat = 12 then ['\\', 'f']
  else if c.toNat = 13 then ['\\', 'r']
  else if c.toNat < 32 then
    ['\\', 'u', '0', '0', Hex.digit (c.toNat / 16), Hex.digit (c.toNat % 16)]
  else [c]

/-- A string between quotes. -/
def stringChars (s : String) : List Char :=
  '"' :: s.toList.flatMap escapeChar ++ ['"']

/-- A number: whole numbers have no point, doubles always do. -/
def Numeral.chars : Numeral → List Char
  | .whole n => (Number.integerText n.value).toList
  | .real x => floatChars x

mutual

/-- The text of a value. -/
def chars : Json → List Char
  | .null => ['n', 'u', 'l', 'l']
  | .bool true => ['t', 'r', 'u', 'e']
  | .bool false => ['f', 'a', 'l', 's', 'e']
  | .number n => n.chars
  | .string s => stringChars s
  | .array [] => ['[', ']']
  | .array (first :: rest) => '[' :: (chars first ++ itemsChars rest ++ [']'])
  | .object [] => ['\x7b', '\x7d']
  | .object ((key, value) :: rest) =>
    '\x7b' :: (stringChars key ++ ':' :: (chars value ++ membersChars rest ++ ['\x7d']))

/-- Further items, each after a comma. -/
def itemsChars : List Json → List Char
  | [] => []
  | item :: rest => ',' :: (chars item ++ itemsChars rest)

/-- Further members, each after a comma. -/
def membersChars : List (String × Json) → List Char
  | [] => []
  | (key, value) :: rest => ',' :: (stringChars key ++ ':' :: (chars value ++ membersChars rest))

end

/-- The text of a value. -/
def render (j : Json) : String := String.ofList j.chars

end RecordStore.Json
