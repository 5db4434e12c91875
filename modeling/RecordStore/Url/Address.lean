/-
RecordStore.Url.Address -- hosts given by number

An address of four bytes is written as up to four numbers, decimal, octal after
a zero or hexadecimal after `0x`; the last one fills the bytes that are left.
An address of eight pieces is written in hexadecimal between colons.  One run of
zero pieces may be left out, and the last two pieces may be written as four
decimal bytes.  The text of an address leaves out the longest run of zeros.
-/
import RecordStore.Number.Whole
import RecordStore.Text.Hex
import RecordStore.Text.Pieces

namespace RecordStore.Url

set_option autoImplicit false

open RecordStore.Number RecordStore.Text

/-! ## Four bytes -/

/-- The digits of a number in a base up to sixteen. -/
def readInBase? (base : Nat) (cs : List Char) : Option Nat :=
  cs.foldl
    (fun value c => do
      let d ← Hex.value? c
      if d < base then some ((← value) * base + d) else none)
    (some 0)

/-- One number of an address, as large as it may be. -/
def readIpv4Number? : List Char → Option Nat
  | [] => none
  | '0' :: 'x' :: rest => readInBase? 16 rest
  | '0' :: 'X' :: rest => readInBase? 16 rest
  | '0' :: c :: rest => readInBase? 8 (c :: rest)
  | cs => readInBase? 10 cs

/-- A last part that is a number makes the whole name an address. -/
def endsInNumber (parts : List (List Char)) : Bool :=
  let isNumber (part : List Char) := !part.isEmpty && (part.all isDigit || (readIpv4Number? part).isSome)
  match parts.reverse with
  | [] :: last :: _ => isNumber last
  | last :: _ => isNumber last
  | [] => false

/-- The value of the leading numbers, one byte each. -/
def leadingBytes (numbers : List Nat) : Nat :=
  numbers.zipIdx.foldl (fun sum entry => sum + (entry.1 <<< (8 * (3 - entry.2)))) 0

/-- The address that the parts between the stops denote. -/
def readIpv4? (parts : List (List Char)) : Option Nat := do
  let parts := if parts.getLast? = some [] then parts.dropLast else parts
  if 4 < parts.length then none
  else
    let numbers ← parts.mapM readIpv4Number?
    let last ← numbers.getLast?
    let leading := numbers.dropLast
    if last < 1 <<< (8 * (4 - leading.length)) ∧ leading.all (· < 256) then
      some (leadingBytes leading + last)
    else none

/-- Four decimal bytes. -/
def ipv4Chars (address : Nat) : List Char :=
  ['.'].intercalate ([address >>> 24, (address >>> 16) % 256, (address >>> 8) % 256,
    address % 256].map digits)

/-! ## Eight pieces -/

/-- One piece: up to four digits. -/
def readPiece? (cs : List Char) : Option Nat :=
  if cs.isEmpty || 4 < cs.length then none else readInBase? 16 cs

/-- One decimal byte, without leading zeros. -/
def readByte? : List Char → Option Nat
  | ['0'] => some 0
  | '0' :: _ => none
  | [] => none
  | cs => if 3 < cs.length then none else (readInBase? 10 cs).filter (· < 256)

/-- Four decimal bytes as two pieces. -/
def readBytePieces? (cs : List Char) : Option (List Nat) := do
  match ← (splitAt (· == '.') cs).mapM readByte? with
  | [a, b, c, d] => some [a * 256 + b, c * 256 + d]
  | _ => none

/-- Pieces between colons; with `bytesAllowed` the last one may be four bytes. -/
def readPieces? (bytesAllowed : Bool) : List (List Char) → Option (List Nat)
  | [] => some []
  | [last] => if bytesAllowed && last.contains '.' then readBytePieces? last else do
      return [← readPiece? last]
  | part :: rest => do return (← readPiece? part) :: (← readPieces? bytesAllowed rest)

/-- What follows the colon that opens the left-out run: `before` tells whether pieces stand before
it, and if none do a second colon must follow. -/
def afterGap? (before : Bool) : List (List Char) → Option (List (List Char))
  | [] :: rest => if before then some ([] :: rest) else if rest.isEmpty then none else some rest
  | rest => if before && !rest.isEmpty then some rest else none

/-- The eight pieces that a text denotes. -/
def readIpv6? (cs : List Char) : Option (List Nat) := do
  let parts := splitAt (· == ':') cs
  let before := parts.takeWhile (!·.isEmpty)
  match parts.dropWhile (!·.isEmpty) with
  | [] =>
    let pieces ← readPieces? true before
    if pieces.length = 8 then some pieces else none
  | _ :: after =>
    let after ← afterGap? (!before.isEmpty) after
    let head ← readPieces? false before
    let tail ← if after = [[]] then some [] else readPieces? true after
    if head.length + tail.length < 8 then
      some (head ++ List.replicate (8 - head.length - tail.length) 0 ++ tail)
    else none

/-- The first of the longest runs of zeros: where it starts and how long it is. -/
def longestZeros (pieces : List Nat) : Nat × Nat :=
  let runs := (List.range pieces.length).map fun i => (i, ((pieces.drop i).takeWhile (· == 0)).length)
  runs.foldl (fun best run => if best.2 < run.2 then run else best) (0, 0)

/-- The pieces between colons; a run of at least two zeros is left out. -/
def ipv6Chars (pieces : List Nat) : List Char :=
  let join (ps : List Nat) := [':'].intercalate (ps.map Hex.ofNat)
  let (start, length) := longestZeros pieces
  if length < 2 then join pieces
  else join (pieces.take start) ++ [':', ':'] ++ join (pieces.drop (start + length))

end RecordStore.Url
