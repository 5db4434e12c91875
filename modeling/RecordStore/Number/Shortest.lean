/-
RecordStore.Number.Shortest -- the shortest decimal that reads back as a double

Every decimal between the midpoints to a double's neighbours reads back as that
double; the midpoints themselves do when the significand is even.  The grid of
multiples of `10^k` is tried from the coarsest down, and on a grid only the two
neighbours of the value are candidates.  The first grid with a hit wins; of two
hits the nearer one, and of two equally near the even one.
-/
import RecordStore.Number.Binary64

namespace RecordStore.Number

set_option autoImplicit false

/-- The positive decimal `digits · 10^exponent`. -/
structure Decimal where
  digits : Nat
  exponent : Int
  deriving DecidableEq

/-- `x · 10^e` as a quotient of naturals. -/
def scaleTen (e : Int) (num den : Nat) : Nat × Nat :=
  if 0 ≤ e then (num * Nat.pow 10 e.toNat, den) else (num, den * Nat.pow 10 (-e).toNat)

namespace Binary64

/-- Four times the significand: the value, and the ends of its rounding interval, in quarters
of the last place. -/
structure Interval where
  low : Nat
  value : Nat
  high : Nat
  closed : Bool

/-- Below a power of two the neighbour is half as far away. -/
def interval (x : Binary64) : Interval where
  low := 4 * x.significand - (if x.significand = 1 <<< 52 ∧ x.exponent ≠ -1074 then 1 else 2)
  value := 4 * x.significand
  high := 4 * x.significand + 2
  closed := x.significand % 2 == 0

/-- The candidate on the grid of multiples of `10^k`, if one reads back. -/
def onGrid (x : Binary64) (k : Int) : Option Decimal :=
  let i := x.interval
  -- In units where a multiple `c` of the grid is `c * step` and a quarter of the last place `quarter`.
  let (a, b) := scale (x.exponent - 2) 1 1
  let (p, q) := scaleTen k 1 1
  let step := p * b
  let quarter := a * q
  let value := i.value * quarter
  let inside (c : Nat) : Bool :=
    if i.closed then i.low * quarter ≤ c * step && c * step ≤ i.high * quarter
    else i.low * quarter < c * step && c * step < i.high * quarter
  let below := value / step
  let gap := value % step
  let above := if gap = 0 then below else below + 1
  match inside below, inside above with
  | true, true =>
    if 2 * gap < step then some ⟨below, k⟩
    else if step < 2 * gap then some ⟨above, k⟩
    else some ⟨if below % 2 = 0 then below else above, k⟩
  | true, false => some ⟨below, k⟩
  | false, true => some ⟨above, k⟩
  | false, false => none

/-- The first of `fuel` grids, from `10^k` down, that has a candidate. -/
def shortestFrom (x : Binary64) : (fuel : Nat) → (k : Int) → Option Decimal
  | 0, _ => none
  | fuel + 1, k =>
    match x.onGrid k with
    | some d => some d
    | none => shortestFrom x fuel (k - 1)

/-- A power of ten above the magnitude. -/
def topGrid (x : Binary64) : Int :=
  (x.exponent + 53) * 30103 / 100000 + 2

/-- The shortest decimal of a non-zero double. -/
def shortest (x : Binary64) : Decimal :=
  if x.significand = 0 then ⟨0, 0⟩
  else (shortestFrom x 60 x.topGrid).getD ⟨0, 0⟩

end Binary64

end RecordStore.Number
