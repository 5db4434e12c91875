/-
RecordStore.Text.Blank -- white space at the ends of a text

Blank characters are those with the white-space property: the ASCII ones, the
next-line character, and the spaces and separators of the general punctuation
block.  A text is blank when it holds nothing else, which is also when trimming
leaves nothing (`trim_eq_empty_iff`).
-/

namespace RecordStore.Text

set_option autoImplicit false

/-- A character with the white-space property. -/
def isBlank (c : Char) : Bool :=
  let n := c.toNat
  (9 ≤ n && n ≤ 13) || n == 0x20 || n == 0x85 || n == 0xA0 || n == 0x1680
    || (0x2000 ≤ n && n ≤ 0x200A) || n == 0x2028 || n == 0x2029 || n == 0x202F
    || n == 0x205F || n == 0x3000

/-- The characters with blanks removed at both ends. -/
def trimChars (cs : List Char) : List Char :=
  ((cs.dropWhile isBlank).reverse.dropWhile isBlank).reverse

/-- The text with blanks removed at both ends. -/
def trim (s : String) : String :=
  String.ofList (trimChars s.toList)

/-- Nothing but blanks. -/
def isBlankText (s : String) : Bool :=
  s.toList.all isBlank

theorem dropWhile_isBlank_eq_nil_iff (cs : List Char) :
    cs.dropWhile isBlank = [] ↔ cs.all isBlank = true := by
  induction cs with
  | nil => simp
  | cons c cs ih => by_cases h : isBlank c <;> simp_all

theorem trimChars_eq_nil_iff (cs : List Char) :
    trimChars cs = [] ↔ cs.all isBlank = true := by
  rw [trimChars, List.reverse_eq_nil_iff, dropWhile_isBlank_eq_nil_iff, List.all_reverse,
    ← dropWhile_isBlank_eq_nil_iff cs]
  constructor
  · intro h
    match hd : cs.dropWhile isBlank with
    | [] => rfl
    | c :: rest =>
      have head := List.head_dropWhile_not isBlank (l := cs) (by simp [hd])
      simp [hd] at h head
      simp_all
  · intro h
    simp [h]

/-- A text is blank exactly when trimming leaves nothing of it. -/
theorem trim_eq_empty_iff (s : String) : trim s = "" ↔ isBlankText s = true := by
  rw [trim, isBlankText, ← trimChars_eq_nil_iff]
  constructor
  · intro h
    simpa using congrArg String.toList h
  · intro h
    simp [h]

end RecordStore.Text
