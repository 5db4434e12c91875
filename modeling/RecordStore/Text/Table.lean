/-
RecordStore.Text.Table -- tables of code points, as text

A table is a text of words in base sixteen.  A word is a code point, `aa`, or a
range of them, `41-5a`.  After a colon it may say what its code points stand
for: `fb01:66+69` is one for two, and `ff21-ff3a:61` goes on in step.
-/
import RecordStore.Text.Blank
import RecordStore.Text.Hex
import RecordStore.Text.Pieces

namespace RecordStore.Text

set_option autoImplicit false

/-- The code points from `first` to `last`, and what the first of them stands for. -/
structure Row where
  first : Nat
  last : Nat
  image : List Nat

namespace Row

def holds (r : Row) (n : Nat) : Bool := r.first ≤ n && n ≤ r.last

/-- What a code point of the row stands for. -/
def imageOf (r : Row) (n : Nat) : List Nat := r.image.map (· + (n - r.first))

theorem imageOf_first (r : Row) : r.imageOf r.first = r.image := by
  simp [imageOf]

/-- The number that digits in base sixteen denote. -/
def number (cs : List Char) : Nat :=
  cs.foldl (fun n c => n * 16 + (Hex.value? c).getD 0) 0

/-- The row that a word denotes. -/
def read (word : List Char) : Row :=
  let range := word.takeWhile (· ≠ ':')
  let image := (word.dropWhile (· ≠ ':')).tail
  let first := range.takeWhile (· ≠ '-')
  let last := (range.dropWhile (· ≠ '-')).tail
  { first := number first
    last := number (if last.isEmpty then first else last)
    image := if image.isEmpty then [] else (splitAt (· == '+') image).map number }

end Row

abbrev Table := List Row

namespace Table

/-- The table that a text denotes. -/
def read (text : String) : Table :=
  ((splitAt isBlank text.toList).filter fun word => !word.isEmpty).map Row.read

/-- The row of a code point. -/
def rowOf? (t : Table) (n : Nat) : Option Row := t.find? (·.holds n)

/-- Whether a table lists a character. -/
def holds (t : Table) (c : Char) : Bool := t.any (·.holds c.toNat)

theorem holds_iff (t : Table) (c : Char) :
    t.holds c = true ↔ ∃ r ∈ t, r.first ≤ c.toNat ∧ c.toNat ≤ r.last := by
  simp [holds, Row.holds]

end Table

end RecordStore.Text
