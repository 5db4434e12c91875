/-
RecordStore.Json.Decimal -- how JSON text spells a double

A double is written with the fewest digits that read back.  Magnitudes from
`10^-5` up to `10^16` are written positionally with at least one decimal, all
others with a signed exponent.
-/
import RecordStore.Number.Shortest
import RecordStore.Number.Whole

namespace RecordStore.Json

set_option autoImplicit false

open RecordStore.Number

/-- Where positional notation begins and ends. -/
structure FloatFormat where
  leastPositional : Int
  firstScientific : Int
  plusSign : Bool

/-- Positional from `10^-5` up to `10^16`; a positive exponent shows its sign. -/
def floatFormat : FloatFormat := ⟨-5, 16, true⟩

/-- Digits with the point after the first `point` of them. -/
def positional (digits : List Char) (point : Int) : List Char :=
  if point ≤ 0 then ['0', '.'] ++ List.replicate (-point).toNat '0' ++ digits
  else if (digits.length : Int) ≤ point then
    digits ++ List.replicate (point.toNat - digits.length) '0' ++ ['.', '0']
  else digits.take point.toNat ++ ['.'] ++ digits.drop point.toNat

/-- One digit before the point, and the power of ten. -/
def scientific (format : FloatFormat) (digits : List Char) (power : Int) : List Char :=
  let fraction := digits.drop 1
  let sign := if power < 0 then ['-'] else if format.plusSign then ['+'] else []
  digits.take 1 ++ (if fraction.isEmpty then [] else '.' :: fraction) ++ ['e'] ++ sign
    ++ Number.digits power.natAbs

/-- The text of a double. -/
def floatChars (x : Binary64) : List Char :=
  let sign := if x.negative then ['-'] else []
  if x.significand = 0 then sign ++ ['0', '.', '0']
  else
    let d := x.shortest
    let digits := Number.digits d.digits
    let power := d.exponent + digits.length - 1
    if floatFormat.leastPositional ≤ power ∧ power < floatFormat.firstScientific then
      sign ++ positional digits (power + 1)
    else sign ++ scientific floatFormat digits power

end RecordStore.Json
