/-
RecordStore.Text.LowerCase -- small letters

Each capital letter becomes its small letter; the dotted capital I becomes two
characters.  A capital sigma depends on its neighbours: at the end of a word,
that is after a cased character and not before one, it takes its final form.
-/
import RecordStore.Text.CaseTable
import RecordStore.Text.Printable

namespace RecordStore.Text

set_option autoImplicit false

/-- Whether `n` is one of the letters of the run. -/
def CaseRun.holds (run : CaseRun) (n : Nat) : Bool :=
  run.first ≤ n && n ≤ run.last && (n - run.first) % run.stride == 0

/-- The small form of a character on its own. -/
def lowerChar (c : Char) : List Char :=
  if c.toNat = 0x130 then ['i', Char.ofNat 0x307]
  else
    match lowerRuns.find? (·.holds c.toNat) with
    | some run => [Char.ofNat (Int.toNat (c.toNat + run.offset))]
    | none => [c]

def isCased (c : Char) : Bool := inRanges casedRanges c.toNat

def isCaseIgnorable (c : Char) : Bool := inRanges caseIgnorableRanges c.toNat

/-- The first character that is not passed over has a case. -/
def startsCased (cs : List Char) : Bool :=
  match cs.dropWhile isCaseIgnorable with
  | c :: _ => isCased c
  | [] => false

/-- Small letters of `rest`, where `before` holds the characters read so far, last first. -/
def lowerFrom (before : List Char) : List Char → List Char
  | [] => []
  | c :: rest =>
    let small :=
      if c.toNat = 0x3A3 then
        if startsCased before && !startsCased rest then [Char.ofNat 0x3C2] else [Char.ofNat 0x3C3]
      else lowerChar c
    small ++ lowerFrom (c :: before) rest

/-- The text in small letters. -/
def lowerCase (s : String) : String :=
  String.ofList (lowerFrom [] s.toList)

end RecordStore.Text
