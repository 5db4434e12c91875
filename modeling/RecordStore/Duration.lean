/-
RecordStore.Duration -- lengths of time

A duration counts nanoseconds.  It is shown in the largest unit of which it
holds at least one, with the fraction that remains and no trailing zeros.
-/
import RecordStore.Number.Whole

namespace RecordStore

set_option autoImplicit false

structure Duration where
  nanos : Nat
  deriving DecidableEq

namespace Duration

def ofSeconds (n : Nat) : Duration := ⟨n * 1_000_000_000⟩

def ofMillis (n : Nat) : Duration := ⟨n * 1_000_000⟩

def ofMicros (n : Nat) : Duration := ⟨n * 1_000⟩

/-- Whole seconds. -/
def seconds (d : Duration) : Nat := d.nanos / 1_000_000_000

/-- Whole milliseconds. -/
def millis (d : Duration) : Nat := d.nanos / 1_000_000

def isZero (d : Duration) : Bool := d.nanos == 0

@[simp] theorem seconds_ofSeconds (n : Nat) : (ofSeconds n).seconds = n := by
  simp [ofSeconds, seconds]

/-- The digits of `fraction / 10^places` after the point, without trailing zeros. -/
def fractionChars (places fraction : Nat) : List Char :=
  let digits := Number.digits fraction
  let padded := List.replicate (places - digits.length) '0' ++ digits
  (padded.reverse.dropWhile (· = '0')).reverse

/-- A count of units with `places` decimals of the next nanoseconds. -/
def inUnit (nanos places : Nat) (unit : String) : String :=
  let fraction := if places = 0 then [] else fractionChars places (nanos % Nat.pow 10 places)
  String.ofList (Number.digits (nanos / Nat.pow 10 places) ++
    (if fraction.isEmpty then [] else '.' :: fraction)) ++ unit

/-- A duration as messages show it. -/
def shown (d : Duration) : String :=
  if 1_000_000_000 ≤ d.nanos then inUnit d.nanos 9 "s"
  else if 1_000_000 ≤ d.nanos then inUnit d.nanos 6 "ms"
  else if 1_000 ≤ d.nanos then inUnit d.nanos 3 "µs"
  else inUnit d.nanos 0 "ns"

end Duration

end RecordStore
