/-
RecordStore.Json.Scan -- the words of JSON text

Each function reads one word from the front of the remaining characters and
gives what follows it.  Numbers keep up to 64 bits of their digits: a longer
whole part counts its further digits in the exponent, a longer fraction loses
them, and the double is the kept digits times or divided by a power of ten,
each step rounded on its own.
-/
import RecordStore.Json.Basic
import RecordStore.Json.Cause
import RecordStore.Text.Hex

namespace RecordStore.Json

set_option autoImplicit false

open RecordStore.Number RecordStore.Text

/-- Blanks between words. -/
def isSpace (c : Char) : Bool :=
  c = ' ' || c = '\t' || c = '\n' || c = '\r'

def skipSpace (cs : List Char) : List Char := cs.dropWhile isSpace

/-- The rest of a literal whose first letter has been read. -/
def scanIdent : (letters : List Char) → List Char → Except Cause (List Char)
  | [], cs => .ok cs
  | _ :: _, [] => .error .endInValue
  | l :: letters, c :: cs => if c = l then scanIdent letters cs else .error .expectedIdent

/-- The colon after a key. -/
def scanColon (cs : List Char) : Except Cause (List Char) :=
  match skipSpace cs with
  | ':' :: rest => .ok rest
  | _ :: _ => .error .expectedColon
  | [] => .error .endInObject

/-! ## Strings -/

/-- Four hexadecimal digits.  A text of fewer than four bytes ends too early. -/
def scanHex4 : List Char → Except Cause (Nat × List Char)
  | a :: b :: c :: d :: rest =>
    match Hex.value4? a b c d with
    | some n => .ok (n, rest)
    | none => .error .invalidEscape
  | cs =>
    if 4 ≤ (String.ofList cs).utf8ByteSize then .error .invalidEscape else .error .endInString

/-- The second half of a pair of surrogates, after the first half `high`. -/
def scanLowSurrogate (high : Nat) : List Char → Except Cause (Char × List Char)
  | [] => .error .endInString
  | '\\' :: 'u' :: rest => do
    let (low, rest) ← scanHex4 rest
    if 0xDC00 ≤ low ∧ low ≤ 0xDFFF then
      .ok (Char.ofNat ((high - 0xD800) * 1024 + (low - 0xDC00) + 0x10000), rest)
    else .error .loneSurrogate
  | ['\\'] => .error .endInString
  | _ => .error .unexpectedEndOfEscape

/-- The character that an escape denotes, after its backslash. -/
def scanEscape : List Char → Except Cause (Char × List Char)
  | [] => .error .endInString
  | '"' :: rest => .ok ('"', rest)
  | '\\' :: rest => .ok ('\\', rest)
  | '/' :: rest => .ok ('/', rest)
  | 'b' :: rest => .ok (Char.ofNat 8, rest)
  | 'f' :: rest => .ok (Char.ofNat 12, rest)
  | 'n' :: rest => .ok ('\n', rest)
  | 'r' :: rest => .ok ('\r', rest)
  | 't' :: rest => .ok ('\t', rest)
  | 'u' :: rest => do
    let (n, rest) ← scanHex4 rest
    if 0xDC00 ≤ n ∧ n ≤ 0xDFFF then .error .loneSurrogate
    else if 0xD800 ≤ n ∧ n ≤ 0xDBFF then scanLowSurrogate n rest
    else .ok (Char.ofNat n, rest)
  | _ => .error .invalidEscape

/-- Characters up to the closing quote, at most `fuel` of them. -/
def scanCharsFrom : (fuel : Nat) → List Char → Except Cause (List Char × List Char)
  | 0, _ => .error .endInString
  | _ + 1, [] => .error .endInString
  | _ + 1, '"' :: rest => .ok ([], rest)
  | fuel + 1, '\\' :: rest => do
    let (c, rest) ← scanEscape rest
    let (cs, rest) ← scanCharsFrom fuel rest
    .ok (c :: cs, rest)
  | fuel + 1, c :: rest =>
    if c.toNat < 32 then .error .controlCharacter
    else do
      let (cs, rest) ← scanCharsFrom fuel rest
      .ok (c :: cs, rest)

/-- A string whose opening quote has been read. -/
def scanString (cs : List Char) : Except Cause (String × List Char) := do
  let (chars, rest) ← scanCharsFrom (cs.length + 1) cs
  .ok (String.ofList chars, rest)

/-! ## Numbers -/

/-- Digits taken after `acc` while the number keeps within 64 bits; the others are left. -/
def keepDigits (acc : Nat) : List Char → Nat × List Char
  | [] => (acc, [])
  | c :: rest =>
    let next := acc * 10 + (c.toNat - 48)
    if next ≤ maxNat64 then keepDigits next rest else (acc, c :: rest)

/-- The double nearest to `10^k`, for `k` up to 308. -/
def powerOfTen (k : Nat) : Binary64 :=
  (Binary64.ofNat (Nat.pow 10 k)).getD Binary64.zero

/-- `x · 10^e`; powers below `10^-308` are taken in steps, each rounded. -/
def shiftTen : (fuel : Nat) → Binary64 → Int → Except Cause Binary64
  | 0, x, _ => .ok x
  | fuel + 1, x, e =>
    if 0 ≤ e ∧ e ≤ 308 then
      match x.mul (powerOfTen e.toNat) with
      | some y => .ok y
      | none => .error .numberOutOfRange
    else if -308 ≤ e ∧ e < 0 then .ok ((x.div (powerOfTen (-e).toNat)).getD Binary64.zero)
    else if x.significand = 0 then .ok x
    else if 0 ≤ e then .error .numberOutOfRange
    else shiftTen fuel ((x.div (powerOfTen 308)).getD Binary64.zero) (e + 308)

/-- The double that kept digits and an exponent stand for. -/
def realOf (negative : Bool) (digits : Nat) (exponent : Int) : Except Cause Numeral := do
  let x ← shiftTen 4 ((Binary64.ofNat digits).getD Binary64.zero) exponent
  .ok (.real (x.withSign negative))

/-- The largest exponent that is taken literally. -/
def maxExponent : Nat := 0x7fff_ffff

/-- The part after the letter e. -/
def scanExponent (negative : Bool) (digits : Nat) (exponent : Int) (cs : List Char) :
    Except Cause (Numeral × List Char) := do
  let (down, cs) := match cs with
    | '+' :: rest => (false, rest)
    | '-' :: rest => (true, rest)
    | _ => (false, cs)
  match cs with
  | [] => .error .endInValue
  | c :: _ =>
    if !isDigit c then .error .invalidNumber
    else
      let e := ofDigits 0 (cs.takeWhile isDigit)
      let rest := cs.dropWhile isDigit
      if maxExponent < e then
        if digits ≠ 0 ∧ !down then .error .numberOutOfRange
        else .ok (.real (Binary64.zero.withSign negative), rest)
      else
        let x ← realOf negative digits (if down then exponent - e else exponent + e)
        .ok (x, rest)

/-- The part after the point. -/
def scanFraction (negative : Bool) (digits : Nat) (exponent : Int) (cs : List Char) :
    Except Cause (Numeral × List Char) := do
  let fraction := cs.takeWhile isDigit
  let rest := cs.dropWhile isDigit
  match fraction, rest with
  | [], [] => .error .endInValue
  | [], _ => .error .invalidNumber
  | _, _ =>
    let (digits, dropped) := keepDigits digits fraction
    let exponent := exponent - (fraction.length - dropped.length : Nat)
    match rest with
    | 'e' :: rest => scanExponent negative digits exponent rest
    | 'E' :: rest => scanExponent negative digits exponent rest
    | _ =>
      let x ← realOf negative digits exponent
      .ok (x, rest)

/-- A whole number with its sign; minus zero and numbers beyond 64 bits are doubles. -/
def wholeOf (negative : Bool) (n : Nat) : Numeral :=
  let real := Numeral.real (((Binary64.ofNat n).getD Binary64.zero).withSign negative)
  if negative ∧ n = 0 then real
  else
    match Whole.ofInt? (if negative then -(n : Int) else n) with
    | some w => .whole w
    | none => real

/-- What follows the digits of the whole part. -/
def scanAfterWhole (negative : Bool) (whole : List Char) (rest : List Char) : Except Cause (Numeral × List Char) := do
  let (digits, dropped) := keepDigits 0 whole
  match rest with
  | '.' :: rest => scanFraction negative digits dropped.length rest
  | 'e' :: rest => scanExponent negative digits dropped.length rest
  | 'E' :: rest => scanExponent negative digits dropped.length rest
  | _ =>
    if dropped.isEmpty then .ok (wholeOf negative digits, rest)
    else
      let x ← realOf negative digits dropped.length
      .ok (x, rest)

/-- A number after its sign. -/
def scanNumber (negative : Bool) : List Char → Except Cause (Numeral × List Char)
  | [] => .error .endInValue
  | '0' :: rest =>
    match rest with
    | c :: _ => if isDigit c then .error .invalidNumber else scanAfterWhole negative ['0'] rest
    | [] => scanAfterWhole negative ['0'] rest
  | c :: rest =>
    if isDigit c then
      scanAfterWhole negative (c :: rest.takeWhile isDigit) (rest.dropWhile isDigit)
    else .error .invalidNumber

end RecordStore.Json
