/-
RecordStore.Number.Scientific -- decimal fractions with an exponent

The notation is an optional sign, digits with at most one point among or beside
them, and an optional exponent.  `toBinary64` rounds the denoted number once;
numbers far outside the range of doubles are settled by their length alone, so
that no power of ten is larger than the text warrants.
-/
import RecordStore.Number.Binary64
import RecordStore.Number.Whole

namespace RecordStore.Number

set_option autoImplicit false

/-- The number `± digits · 10^exponent`. -/
structure Scientific where
  negative : Bool
  digits : Nat
  exponent : Int
  deriving DecidableEq

namespace Scientific

/-- The exponent part, which ends the text. -/
def readExponent? : List Char → Option Int
  | [] => some 0
  | e :: rest =>
    if e = 'e' ∨ e = 'E' then
      match rest with
      | '+' :: ds => if ds.isEmpty || !ds.all isDigit then none else some (ofDigits 0 ds)
      | '-' :: ds => if ds.isEmpty || !ds.all isDigit then none else some (-(ofDigits 0 ds : Int))
      | ds => if ds.isEmpty || !ds.all isDigit then none else some (ofDigits 0 ds)
    else none

/-- A number without its sign. -/
def readUnsigned? (negative : Bool) (cs : List Char) : Option Scientific :=
  let whole := cs.takeWhile isDigit
  match cs.dropWhile isDigit with
  | '.' :: rest =>
    let fraction := rest.takeWhile isDigit
    if whole.isEmpty && fraction.isEmpty then none
    else (readExponent? (rest.dropWhile isDigit)).map fun e =>
      ⟨negative, ofDigits 0 (whole ++ fraction), e - fraction.length⟩
  | rest =>
    if whole.isEmpty then none
    else (readExponent? rest).map fun e => ⟨negative, ofDigits 0 whole, e⟩

/-- A number with an optional sign. -/
def read? : List Char → Option Scientific
  | '+' :: rest => readUnsigned? false rest
  | '-' :: rest => readUnsigned? true rest
  | cs => readUnsigned? false cs

/-- The nearest double; none when the number is too large. -/
def toBinary64 (s : Scientific) : Option Binary64 :=
  let length : Int := (Number.digits s.digits).length
  if s.digits = 0 then Binary64.round s.negative 0 1
  else if 310 < s.exponent + length then none
  else if s.exponent + length < -330 then Binary64.round s.negative 0 1
  else if 0 ≤ s.exponent then Binary64.round s.negative (s.digits * Nat.pow 10 s.exponent.toNat) 1
  else Binary64.round s.negative s.digits (Nat.pow 10 (-s.exponent).toNat)

end Scientific

end RecordStore.Number
