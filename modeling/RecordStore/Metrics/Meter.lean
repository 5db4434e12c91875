/-
RecordStore.Metrics.Meter -- counters and latency histograms by label

A meter keeps one counter and one histogram for every series that was ever
touched, also by asking.  Counters have 64 bits and wrap around; they are shown
as the nearest double (`shownCount`).  A histogram counts its samples, adds them
up in milliseconds as doubles, and counts for each bound the samples that do not
exceed it.
-/
import RecordStore.Metrics.Series
import RecordStore.Number.Binary64
import RecordStore.Number.Whole

namespace RecordStore.Metrics

set_option autoImplicit false

open RecordStore.Number

/-- `num / den` as a double, for numbers within range. -/
def real (num den : Nat) : Binary64 := (Binary64.round false num den).getD Binary64.zero

/-- The upper bounds of the buckets in milliseconds. -/
def bucketBounds : List Binary64 :=
  [real 1 1, real 5 2, real 5 1, real 10 1, real 25 1, real 50 1, real 100 1, real 250 1,
    real 500 1, real 1000 1, real 2500 1, real 5000 1]

/-- Whether one magnitude is at most another. -/
def atMost (x y : Binary64) : Bool :=
  x.ratio.1 * y.ratio.2 ≤ y.ratio.1 * x.ratio.2

/-- A duration in milliseconds: seconds and nanoseconds are brought to one double first. -/
def millisOf (d : Duration) : Binary64 :=
  let seconds := real d.seconds 1
  let fraction := ((real (d.nanos % 1_000_000_000) 1).div (real (1_000_000_000) 1)).getD Binary64.zero
  let total := (seconds.add fraction).getD Binary64.zero
  (total.mul (real 1000 1)).getD Binary64.zero

structure Histogram where
  count : Nat
  sum : Binary64
  /-- For each bound, the samples that do not exceed it. -/
  buckets : List Nat
  deriving DecidableEq

namespace Histogram

def empty : Histogram := ⟨0, Binary64.zero, bucketBounds.map fun _ => 0⟩

/-- The histogram with one more sample. -/
def observe (h : Histogram) (x : Binary64) : Histogram where
  count := h.count + 1
  sum := (h.sum.add x).getD h.sum
  buckets := List.zipWith (fun bound n => if atMost x bound then n + 1 else n) bucketBounds h.buckets

end Histogram

/-- A counter as it is shown: the nearest double, as a whole number that again has 64 bits. -/
def shownCount (n : Nat) : Nat := min (real n 1).truncate.toNat maxNat64

/-- The series of a process. -/
structure Meter where
  process : ProcessLabels
  counters : List (Series Nat)
  timers : List (Series Histogram)

namespace Meter

def empty (process : ProcessLabels) : Meter := ⟨process, [], []⟩

/-- Add to a counter. -/
def increment (m : Meter) (labels : Labels) (amount : Nat) : Meter :=
  { m with counters := Series.adjust m.process labels 0 (fun n => (n + amount) % (maxNat64 + 1)) m.counters }

/-- Add a latency sample. -/
def time (m : Meter) (labels : Labels) (elapsed : Duration) : Meter :=
  { m with timers := Series.adjust m.process labels .empty (·.observe (millisOf elapsed)) m.timers }

def record (m : Meter) : Sample → Meter
  | .count labels amount => m.increment labels amount
  | .time labels elapsed => m.time labels elapsed

/-- The value of a counter; asking brings the series into being. -/
def counter (m : Meter) (labels : Labels) : Nat × Meter :=
  (Series.valueAt m.process labels 0 m.counters,
    { m with counters := Series.adjust m.process labels 0 id m.counters })

/-- The number of latency samples; asking brings the series into being. -/
def timerCount (m : Meter) (labels : Labels) : Nat × Meter :=
  ((Series.valueAt m.process labels .empty m.timers).count,
    { m with timers := Series.adjust m.process labels .empty id m.timers })

end Meter

/-- Where meters are gathered.  It takes the series of one meter. -/
structure Registry where
  taken : Bool
  deriving DecidableEq

/-- Register one more meter. -/
def Registry.register (r : Registry) : Except StoreError Unit × Registry :=
  if r.taken then (.error (.configuration .duplicateRegistration), r) else (.ok (), ⟨true⟩)

end RecordStore.Metrics
