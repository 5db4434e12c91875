/-
RecordStore.Text.Hex -- bytes and code points in base sixteen

Digits above nine are small letters.  A byte always takes two digits
(`ofByte_length`); a code point takes as many as it needs.
-/

namespace RecordStore.Text.Hex

set_option autoImplicit false

/-- The digit for a value below sixteen. -/
def digit (n : Nat) : Char :=
  if n < 10 then Char.ofNat (48 + n) else Char.ofNat (87 + n)

/-- The value of a digit, in either case of letter. -/
def value? (c : Char) : Option Nat :=
  let n := c.toNat
  if 48 ≤ n && n ≤ 57 then some (n - 48)
  else if 97 ≤ n && n ≤ 102 then some (n - 87)
  else if 65 ≤ n && n ≤ 70 then some (n - 55)
  else none

theorem value?_digit {n : Nat} (h : n < 16) : value? (digit n) = some n := by
  revert n
  decide

/-- Two digits. -/
def ofByte (b : UInt8) : List Char :=
  [digit (b.toNat / 16), digit (b.toNat % 16)]

theorem ofByte_length (b : UInt8) : (ofByte b).length = 2 := rfl

/-- All bytes one after the other. -/
def ofBytes (bytes : List UInt8) : String :=
  String.ofList (bytes.flatMap ofByte)

/-- The shortest digits of a number. -/
def ofNat (n : Nat) : List Char :=
  Nat.toDigits 16 n

/-- The number that four digits denote. -/
def value4? (a b c d : Char) : Option Nat := do
  return (((← value? a) * 16 + (← value? b)) * 16 + (← value? c)) * 16 + (← value? d)

end RecordStore.Text.Hex
