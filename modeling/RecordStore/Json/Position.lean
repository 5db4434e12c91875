/-
RecordStore.Json.Position -- a line and a column at the end of a text

A failure that is put into words elsewhere may end in ` at line L column C`.
Such an end is read as a position: it is shown again in plain decimals, and it
is left out when it names no line (`restated`).  Numbers beyond 64 bits make no
position, and the text stays as it is.
-/
import RecordStore.Number.Whole

namespace RecordStore.Json

set_option autoImplicit false

open RecordStore.Number

/-- A place in a text.  Lines are counted from one, and line zero names no place. -/
structure Position where
  line : Nat
  column : Nat
  deriving DecidableEq

namespace Position

/-- How a position ends a text. -/
def suffix (p : Position) : String :=
  " at line " ++ integerText p.line ++ " column " ++ integerText p.column

/-- The number at the end of a text that is given last character first, and the text before `word`,
which stands in front of the number. -/
def lastNumber? (word : String) (reversed : List Char) : Option (Nat × List Char) :=
  let digits := reversed.takeWhile isDigit
  let rest := reversed.dropWhile isDigit
  if digits.isEmpty || !word.toList.reverse.isPrefixOf rest then none
  else some (ofDigits 0 digits.reverse, rest.drop word.length)

/-- A text that ends in a position, taken apart. -/
def split? (s : String) : Option (String × Position) := do
  let (column, rest) ← lastNumber? " column " s.toList.reverse
  let (line, rest) ← lastNumber? " at line " rest
  some (String.ofList rest.reverse, ⟨line, column⟩)

/-- The text with its position, if it has one, in the usual form. -/
def restated (s : String) : String :=
  match split? s with
  | some (text, p) =>
    if maxNat64 < p.line ∨ maxNat64 < p.column then s
    else if p.line = 0 then text
    else text ++ p.suffix
  | none => s

end Position

end RecordStore.Json
