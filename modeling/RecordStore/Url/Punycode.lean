/-
RecordStore.Url.Punycode -- labels of any characters as ASCII

The ASCII characters of a label come first, then a hyphen if there are any, and
then the other characters in ascending order.  Each of those is given by how far
it lies from the one before, counted over code points and places at once, in a
base of thirty-six whose digits have thresholds that adapt to what was written.
-/

namespace RecordStore.Url.Punycode

set_option autoImplicit false

/-- Letters stand for the digits up to twenty-five, decimal digits for the rest. -/
def digit (n : Nat) : Char :=
  if n < 26 then Char.ofNat (97 + n) else Char.ofNat (22 + n)

def digitValue? (c : Char) : Option Nat :=
  let n := c.toNat
  if 97 ≤ n && n ≤ 122 then some (n - 97)
  else if 65 ≤ n && n ≤ 90 then some (n - 65)
  else if 48 ≤ n && n ≤ 57 then some (n - 22)
  else none

/-- The threshold of the digit at `place`, which goes up in steps of thirty-six. -/
def threshold (bias place : Nat) : Nat := max 1 (min 26 (place - bias))

/-- How often a delta is scaled down, and what is left of it. -/
def scaleDown (delta steps : Nat) : Nat × Nat :=
  if 455 < delta then scaleDown (delta / 35) (steps + 36) else (delta, steps)
termination_by delta
decreasing_by exact Nat.div_lt_self (by omega) (by omega)

/-- The bias after a delta, when `count` characters are in place. -/
def adapt (delta count : Nat) (first : Bool) : Nat :=
  let delta := if first then delta / 700 else delta / 2
  let (delta, steps) := scaleDown (delta + delta / count) 0
  steps + 36 * delta / (delta + 38)

/-! ## Writing -/

/-- The digits of a delta, at most `fuel` of them. -/
def deltaChars (bias : Nat) : (fuel : Nat) → (place delta : Nat) → List Char
  | 0, _, _ => []
  | fuel + 1, place, delta =>
    let t := threshold bias place
    if delta < t then [digit delta]
    else digit (t + (delta - t) % (36 - t)) :: deltaChars bias fuel (place + 36) ((delta - t) / (36 - t))

/-- Where writing has come to. -/
structure Writer where
  out : List Char
  delta : Nat
  bias : Nat
  /-- Characters in place. -/
  placed : Nat
  first : Bool

/-- One character of the label while the character `next` is being placed. -/
def writeOne (next : Nat) (w : Writer) (c : Char) : Writer :=
  if c.toNat < next then { w with delta := w.delta + 1 }
  else if c.toNat = next then {
    out := w.out ++ deltaChars w.bias (w.delta + 1) 36 w.delta
    delta := 0
    bias := adapt w.delta (w.placed + 1) w.first
    placed := w.placed + 1
    first := false }
  else w

/-- Place the characters of a list one after the other; `after` is the code point after the last
one placed. -/
def writeAll (label : List Char) : List Nat → (after : Nat) → Writer → Writer
  | [], _, w => w
  | next :: rest, after, w =>
    let w := label.foldl (writeOne next) { w with delta := w.delta + (next - after) * (w.placed + 1) }
    writeAll label rest (next + 1) { w with delta := w.delta + 1 }

/-- The label in ASCII, without the mark that says so. -/
def encode (label : List Char) : List Char :=
  let basic := label.filter fun c => c.toNat < 0x80
  let others := ((label.filter fun c => 0x80 ≤ c.toNat).map Char.toNat).eraseDups.mergeSort
  let written := writeAll label others 0x80 ⟨[], 0, 72, basic.length, true⟩
  basic ++ (if basic.isEmpty then [] else ['-']) ++ written.out

/-! ## Reading -/

/-- The delta at the front, added to `value`, and the text after it. -/
def readDelta (bias : Nat) : List Char → (place weight value : Nat) → Option (Nat × List Char)
  | [], _, _, _ => none
  | c :: rest, place, weight, value => do
    let d ← digitValue? c
    let t := threshold bias place
    let value := value + d * weight
    if d < t then some (value, rest) else readDelta bias rest (place + 36) (weight * (36 - t)) value

/-- Put in the characters that the deltas tell, at most `fuel` of them. -/
def readAll : (fuel : Nat) → List Char → (code position bias : Nat) → (first : Bool) → List Char →
    Option (List Char)
  | _, [], _, _, _, _, out => some out
  | 0, _ :: _, _, _, _, _, _ => none
  | fuel + 1, cs, code, position, bias, first, out => do
    let (total, rest) ← readDelta bias cs 36 1 position
    let count := out.length + 1
    let code := code + total / count
    let place := total % count
    if code < 0xD800 ∨ (0xE000 ≤ code ∧ code < 0x110000) then
      readAll fuel rest code (place + 1) (adapt (total - position) count first) false
        (out.take place ++ Char.ofNat code :: out.drop place)
    else none

/-- The label that ASCII text stands for.  A hyphen ends the ASCII characters only where there are
any. -/
def decode (text : List Char) : Option (List Char) :=
  let reversed := text.reverse
  let basic := (reversed.dropWhile (· ≠ '-')).tail.reverse
  let rest := if basic.isEmpty then text else (reversed.takeWhile (· ≠ '-')).reverse
  readAll rest.length rest 0x80 0 72 true basic

end RecordStore.Url.Punycode
