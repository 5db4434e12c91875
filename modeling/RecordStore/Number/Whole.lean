/-
RecordStore.Number.Whole -- whole numbers in decimal text

A text of digits is read from the left, and the first digit at which it fails
names the fault: a character that is no digit before a number that has grown too
large.  A sign may come first; an unsigned number admits only a plus.
-/

namespace RecordStore.Number

set_option autoImplicit false

/-- The value of a decimal digit. -/
def digit? (c : Char) : Option Nat :=
  if '0' ≤ c ∧ c ≤ '9' then some (c.toNat - 48) else none

def isDigit (c : Char) : Bool := decide ('0' ≤ c ∧ c ≤ '9')

/-- The number that digits denote after the number `acc`. -/
def ofDigits (acc : Nat) : List Char → Nat
  | [] => acc
  | c :: rest => ofDigits (acc * 10 + (c.toNat - 48)) rest

/-- The decimal digits of a number. -/
def digits (n : Nat) : List Char := Nat.toDigits 10 n

/-- The decimal text of an integer. -/
def integerText (i : Int) : String :=
  if i < 0 then String.ofList ('-' :: digits i.natAbs) else String.ofList (digits i.natAbs)

/-- Why a text is not a whole number in range. -/
inductive WholeFault
  | empty
  | invalidDigit
  | tooLarge
  deriving DecidableEq

def WholeFault.message : WholeFault → String
  | .empty => "cannot parse integer from empty string"
  | .invalidDigit => "invalid digit found in string"
  | .tooLarge => "number too large to fit in target type"

/-- Digits after `acc`, with no number above `limit`. -/
def readDigits (limit acc : Nat) : List Char → Except WholeFault Nat
  | [] => .ok acc
  | c :: rest =>
    match digit? c with
    | none => .error .invalidDigit
    | some d => if acc * 10 + d ≤ limit then readDigits limit (acc * 10 + d) rest else .error .tooLarge

/-- An unsigned whole number up to `limit`. -/
def readNat (limit : Nat) : List Char → Except WholeFault Nat
  | [] => .error .empty
  | ['+'] => .error .invalidDigit
  | '+' :: rest => readDigits limit 0 rest
  | cs => readDigits limit 0 cs

/-- A whole number from `-limit - 1` to `limit`, with an optional sign. -/
def readInt? (limit : Nat) : List Char → Option Int
  | [] => none
  | '+' :: rest => if rest.isEmpty then none else (readDigits limit 0 rest).toOption.map Int.ofNat
  | '-' :: rest =>
    if rest.isEmpty then none
    else (readDigits (limit + 1) 0 rest).toOption.map fun n => -(Int.ofNat n)
  | cs => (readDigits limit 0 cs).toOption.map Int.ofNat

/-- The greatest signed 64-bit number. -/
def maxInt64 : Nat := 0x7fff_ffff_ffff_ffff

/-- The greatest unsigned 64-bit number. -/
def maxNat64 : Nat := 0xffff_ffff_ffff_ffff

end RecordStore.Number
