/-
RecordStore.Url.Domain -- names of hosts in ASCII

A domain name is folded label by label, and each label is written in ASCII.
When a name holds letters that are written from right to left, every label must
keep its characters together on the line: it begins with a letter, holds letters
of one direction only, and ends in such a letter or in a number (`isOrdered`).
-/
import RecordStore.Text.Direction
import RecordStore.Url.Label

namespace RecordStore.Url

set_option autoImplicit false

open RecordStore.Text

/-! ## Direction -/

/-- Directions that a label may hold beside those of its letters. -/
def neutralDirections : List Direction :=
  [.europeanNumber, .europeanSeparator, .europeanTerminator, .commonSeparator, .nonspacingMark,
    .boundaryNeutral, .otherNeutral]

/-- Whether the last character, marks aside, has one of the directions. -/
def endsIn (allowed ds : List Direction) : Bool :=
  (ds.reverse.find? (· != .nonspacingMark)).any allowed.contains

/-- A label whose letters are written from left to right. -/
def isLeftToRightLabel (ds : List Direction) : Bool :=
  ds.all (fun d => d == .leftToRight || neutralDirections.contains d)
    && endsIn [.leftToRight, .europeanNumber] ds

/-- A label whose letters are written from right to left; its numbers are of one kind. -/
def isRightToLeftLabel (ds : List Direction) : Bool :=
  ds.all (fun d => d.isRightToLeft || neutralDirections.contains d)
    && endsIn [.rightToLeft, .arabicLetter, .europeanNumber, .arabicNumber] ds
    && !(ds.contains .europeanNumber && ds.contains .arabicNumber)

/-- Whether a label can stand beside letters that are written from right to left. -/
def isOrdered (label : List Char) : Bool :=
  let ds := label.map direction
  match ds with
  | [] => true
  | .leftToRight :: _ => isLeftToRightLabel ds
  | .rightToLeft :: _ | .arabicLetter :: _ => isRightToLeftLabel ds
  | _ => false

/-! ## Names -/

/-- Whether a label holds what is written from right to left. -/
def holdsRightToLeft (label : List Char) : Bool := label.any fun c => (direction c).isRightToLeft

/-- A domain name in ASCII; none when it holds what it must not. -/
def domainToAscii (name : String) : Option String := do
  let folded ← (splitAt (· == '.') name.toList).mapM foldLabel
  let labels ← (folded.flatMap (splitAt (· == '.'))).mapM Label.ofFolded
  if labels.any (fun l => holdsRightToLeft l.plain) && !labels.all (fun l => isOrdered l.plain) then
    none
  else some (String.ofList (['.'].intercalate (labels.map (·.written))))

end RecordStore.Url
