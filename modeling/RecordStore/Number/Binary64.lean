/-
RecordStore.Number.Binary64 -- finite double-precision numbers, exactly

A double is a sign, a significand below `2^53` and a power of two.  The form is
unique up to the sign of zero: a significand below `2^52` occurs only with the
least exponent.  Arithmetic takes the exact quotient of naturals and rounds it
once, to the nearest double and to the even significand on a tie (`round`).
-/

namespace RecordStore.Number

set_option autoImplicit false

/-- The finite double `± significand · 2^exponent`. -/
structure Binary64 where
  negative : Bool
  significand : Nat
  exponent : Int
  significand_lt : significand < 1 <<< 53
  exponent_ge : -1074 ≤ exponent
  exponent_le : exponent ≤ 971
  normal : 1 <<< 52 ≤ significand ∨ exponent = -1074
  deriving DecidableEq

/-- `num / den` rounded to a whole number, a tie to the even one. -/
def roundDiv (num den : Nat) : Nat :=
  let q := num / den
  let r := num % den
  if 2 * r < den then q
  else if den < 2 * r then q + 1
  else if q % 2 = 0 then q else q + 1

/-- `x · 2^e` as a quotient of naturals. -/
def scale (e : Int) (num den : Nat) : Nat × Nat :=
  if 0 ≤ e then (num <<< e.toNat, den) else (num, den <<< (-e).toNat)

namespace Binary64

/-- The double with these parts, if they are in range. -/
def ofParts? (negative : Bool) (significand : Nat) (exponent : Int) : Option Binary64 :=
  if h : significand < 1 <<< 53 ∧ -1074 ≤ exponent ∧ exponent ≤ 971 ∧
      (1 <<< 52 ≤ significand ∨ exponent = -1074) then
    some ⟨negative, significand, exponent, h.1, h.2.1, h.2.2.1, h.2.2.2⟩
  else none

/-- The greatest `l` with `2^l ≤ num / den`, for positive `num` and `den`. -/
def magnitude (num den : Nat) : Int :=
  let l : Int := (Nat.log2 num : Int) - (Nat.log2 den : Int)
  let (n, d) := scale (-l) num den
  if d ≤ n then l else l - 1

/-- The power of two in whose multiples `num / den` is expressed. -/
def quantum (num den : Nat) : Int :=
  max (-1074) (magnitude num den - 52)

/-- The double nearest to `± num / den`; none when that is beyond the largest one. -/
def round (negative : Bool) (num den : Nat) : Option Binary64 :=
  if num = 0 then ofParts? negative 0 (-1074)
  else
    let e := quantum num den
    let (n, d) := scale (-e) num den
    let m := roundDiv n d
    if m = 1 <<< 53 then ofParts? negative (1 <<< 52) (e + 1) else ofParts? negative m e

/-- Positive zero. -/
def zero : Binary64 := ⟨false, 0, -1074, by decide, by decide, by decide, by decide⟩

/-- The magnitude as a quotient of naturals. -/
def ratio (x : Binary64) : Nat × Nat :=
  scale x.exponent x.significand 1

/-- The double nearest to a natural number. -/
def ofNat (n : Nat) : Option Binary64 := round false n 1

/-- The sum of the magnitudes. -/
def add (x y : Binary64) : Option Binary64 :=
  let (a, b) := x.ratio
  let (c, d) := y.ratio
  round false (a * d + c * b) (b * d)

/-- The product of the magnitudes. -/
def mul (x y : Binary64) : Option Binary64 :=
  let (a, b) := x.ratio
  let (c, d) := y.ratio
  round false (a * c) (b * d)

/-- The quotient of the magnitudes; none when `y` is zero. -/
def div (x y : Binary64) : Option Binary64 :=
  let (a, b) := x.ratio
  let (c, d) := y.ratio
  if c = 0 then none else round false (a * d) (b * c)

/-- The same magnitude with the given sign. -/
def withSign (negative : Bool) (x : Binary64) : Binary64 :=
  { x with negative }

/-- The whole part, toward zero. -/
def truncate (x : Binary64) : Int :=
  let (n, d) := x.ratio
  if x.negative then -((n / d : Nat) : Int) else (n / d : Nat)

/-- Equality of values: the two zeros are equal. -/
instance : BEq Binary64 where
  beq x y := x.significand == y.significand && x.exponent == y.exponent &&
    (x.significand == 0 || x.negative == y.negative)

end Binary64

end RecordStore.Number
