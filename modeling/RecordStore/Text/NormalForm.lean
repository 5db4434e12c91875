/-
RecordStore.Text.NormalForm -- one way to write a character with its marks

The normal form of a text is found in three steps: every character is taken
apart, the marks behind a character are put in the order of their classes, those
of one class staying as they are, and then each mark that is not shut off from
its character by another one joins it, as far as the two make a character.
-/
import RecordStore.Text.CombiningClass
import RecordStore.Text.Composition

namespace RecordStore.Text

set_option autoImplicit false

/-- A character with its combining class. -/
structure Placed where
  char : Char
  place : Nat

/-- The characters that a text is made of, with their classes.  No character is taken apart more
than four times. -/
def taken (cs : List Char) : List Placed :=
  (cs.flatMap fun c => decompose 4 c.toNat).map fun n =>
    let c := Char.ofNat n
    ⟨c, combiningClass c⟩

/-- Add a character to a text in order, which is given last character first. -/
def insertMark (p : Placed) : List Placed → List Placed
  | [] => [p]
  | q :: before => if 0 < p.place ∧ p.place < q.place then q :: insertMark p before else p :: q :: before

/-- The text with marks in the order of their classes. -/
def ordered (ps : List Placed) : List Placed :=
  (ps.foldl (fun before p => insertMark p before) []).reverse

/-- Put a text together: `base` is the character that the next marks may join, and `marks` are those
that stay behind it, last first. -/
def joined (base : Char) (marks : List Placed) : List Placed → List Char
  | [] => base :: (marks.reverse.map (·.char))
  | p :: rest =>
    let open? := match marks with
      | [] => true
      | q :: _ => decide (q.place < p.place)
    match if open? then compose? base.toNat p.char.toNat else none with
    | some n => joined (Char.ofNat n) marks rest
    | none =>
      if p.place = 0 then base :: (marks.reverse.map (·.char)) ++ joined p.char [] rest
      else joined base (p :: marks) rest

/-- The normal form of a text. -/
def normalForm (cs : List Char) : List Char :=
  match ordered (taken cs) with
  | [] => []
  | p :: rest => joined p.char [] rest

end RecordStore.Text
