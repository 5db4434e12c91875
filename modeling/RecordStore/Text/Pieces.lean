/-
RecordStore.Text.Pieces -- texts cut at separators

A text with `n` separators falls into `n + 1` pieces, some of them perhaps empty
(`length_splitAt`).
-/

namespace RecordStore.Text

set_option autoImplicit false

/-- The pieces of a text between separators. -/
def splitAt (isSeparator : Char → Bool) (cs : List Char) : List (List Char) :=
  cs.foldr
    (fun c pieces =>
      if isSeparator c then [] :: pieces
      else match pieces with
        | piece :: rest => (c :: piece) :: rest
        | [] => [[c]])
    [[]]

theorem splitAt_cons (isSeparator : Char → Bool) (c : Char) (cs : List Char) :
    splitAt isSeparator (c :: cs) =
      if isSeparator c then [] :: splitAt isSeparator cs
      else match splitAt isSeparator cs with
        | piece :: rest => (c :: piece) :: rest
        | [] => [[c]] := rfl

theorem length_splitAt (isSeparator : Char → Bool) (cs : List Char) :
    (splitAt isSeparator cs).length = cs.countP isSeparator + 1 := by
  induction cs with
  | nil => rfl
  | cons c cs ih =>
    rw [splitAt_cons, List.countP_cons]
    cases pieces : splitAt isSeparator cs with
    | nil => simp [pieces] at ih
    | cons piece rest =>
      rw [pieces] at ih
      by_cases h : isSeparator c <;> simp_all

end RecordStore.Text
