/-
RecordStore.Proofs.Json.Words -- reading back strings and whole numbers

A string that was written between quotes is read back, whatever follows
(`scanString_stringChars`).  A whole number is read back when no character
follows that could belong to a number (`scanNumber_digits`).
-/
import RecordStore.Json.Printer
import RecordStore.Json.Scan
import RecordStore.Proofs.Number.Digits

namespace RecordStore.Json

set_option autoImplicit false

open RecordStore.Number RecordStore.Text

/-! ## Strings -/

theorem scanHex4_control {n : Nat} (small : n < 32) (rest : List Char) :
    scanHex4 ('0' :: '0' :: Hex.digit (n / 16) :: Hex.digit (n % 16) :: rest) =
      .ok (n, rest) := by
  have high := Hex.value?_digit (show n / 16 < 16 by omega)
  have low := Hex.value?_digit (show n % 16 < 16 by omega)
  have zero : Hex.value? '0' = some 0 := by decide
  have value : Hex.value4? '0' '0' (Hex.digit (n / 16)) (Hex.digit (n % 16)) = some n := by
    simp only [Hex.value4?, zero, high, low, bind, Option.bind, pure]
    congr 1
    omega
  rw [scanHex4, value]

/-- A written character is read back, with or without an escape. -/
theorem scanCharsFrom_escapeChar (fuel : Nat) (c : Char) (tail : List Char) :
    scanCharsFrom (fuel + 1) (escapeChar c ++ tail) =
      (scanCharsFrom fuel tail).map fun read => (c :: read.1, read.2) := by
  have spelled (n : Nat) (same : c.toNat = n) : c = Char.ofNat n := by
    rw [← same, Char.ofNat_toNat]
  by_cases quote : c = '"'
  · subst quote
    rfl
  by_cases backslash : c = '\\'
  · subst backslash
    rfl
  unfold escapeChar
  rw [if_neg quote, if_neg backslash]
  split
  · next same =>
    obtain rfl := spelled 8 same
    rfl
  split
  · next same =>
    obtain rfl := spelled 9 same
    rfl
  split
  · next same =>
    obtain rfl := spelled 10 same
    rfl
  split
  · next same =>
    obtain rfl := spelled 12 same
    rfl
  split
  · next same =>
    obtain rfl := spelled 13 same
    rfl
  split
  · next small =>
    have plain : ¬ (0xDC00 ≤ c.toNat ∧ c.toNat ≤ 0xDFFF) := by omega
    have single : ¬ (0xD800 ≤ c.toNat ∧ c.toNat ≤ 0xDBFF) := by omega
    show ((scanEscape ('u' :: '0' :: '0' :: Hex.digit (c.toNat / 16) ::
      Hex.digit (c.toNat % 16) :: tail)).bind fun first =>
        (scanCharsFrom fuel first.2).bind fun read => .ok (first.1 :: read.1, read.2)) = _
    rw [scanEscape, scanHex4_control small]
    dsimp only [bind, Except.bind]
    rw [if_neg plain, if_neg single, Char.ofNat_toNat]
    rfl
  · next large =>
    rw [List.singleton_append, scanCharsFrom]
    · rw [if_neg large]
      rfl
    · exact quote
    · exact backslash

theorem scanCharsFrom_flatMap {fuel : Nat} {cs : List Char} (enough : cs.length < fuel)
    (rest : List Char) :
    scanCharsFrom fuel (cs.flatMap escapeChar ++ '"' :: rest) = .ok (cs, rest) := by
  induction cs generalizing fuel with
  | nil =>
    obtain ⟨fuel, rfl⟩ := Nat.exists_eq_succ_of_ne_zero (Nat.ne_of_gt enough)
    rfl
  | cons c tail ih =>
    obtain ⟨fuel, rfl⟩ := Nat.exists_eq_succ_of_ne_zero (Nat.ne_zero_of_lt enough)
    rw [List.flatMap_cons, List.append_assoc, scanCharsFrom_escapeChar,
      ih (Nat.lt_of_succ_lt_succ enough)]
    rfl

theorem length_le_flatMap (cs : List Char) : cs.length ≤ (cs.flatMap escapeChar).length := by
  induction cs with
  | nil => exact Nat.le_refl 0
  | cons c tail ih =>
    have written : 1 ≤ (escapeChar c).length := by
      unfold escapeChar
      repeat' split
      all_goals simp
    rw [List.flatMap_cons, List.length_append, List.length_cons]
    omega

theorem stringChars_append (s : String) (rest : List Char) :
    stringChars s ++ rest = '"' :: (s.toList.flatMap escapeChar ++ '"' :: rest) := by
  rw [stringChars, List.append_assoc]
  rfl

/-- A string is read back from between its quotes. -/
theorem scanString_flatMap (s : String) (rest : List Char) :
    scanString (s.toList.flatMap escapeChar ++ '"' :: rest) = .ok (s, rest) := by
  have enough : s.toList.length < (s.toList.flatMap escapeChar ++ '"' :: rest).length + 1 := by
    have := length_le_flatMap s.toList
    rw [List.length_append]
    omega
  rw [scanString, scanCharsFrom_flatMap enough]
  show Except.ok (String.ofList s.toList, rest) = _
  rw [String.ofList_toList]

/-! ## Whole numbers -/

/-- No character follows that could belong to a number. -/
def EndsNumber : List Char → Prop
  | [] => True
  | c :: _ => isDigit c = false ∧ c ≠ '.' ∧ c ≠ 'e' ∧ c ≠ 'E'

theorem keepDigits_eq {acc : Nat} {cs : List Char} (le : ofDigits acc cs ≤ maxNat64) :
    keepDigits acc cs = (ofDigits acc cs, []) := by
  induction cs generalizing acc with
  | nil => rfl
  | cons c rest ih =>
    rw [ofDigits_cons] at le ⊢
    rw [keepDigits, if_pos (Nat.le_trans (le_ofDigits _ rest) le)]
    exact ih le

/-- The whole part of a number is all of it when nothing follows. -/
theorem scanAfterWhole_digits (negative : Bool) {n : Nat} (le : n ≤ maxNat64) {rest : List Char}
    (ends : EndsNumber rest) :
    scanAfterWhole negative (digits n) rest = .ok (wholeOf negative n, rest) := by
  have kept : keepDigits 0 (digits n) = (n, []) := by
    rw [keepDigits_eq (by rwa [ofDigits_digits]), ofDigits_digits]
  unfold scanAfterWhole
  rw [kept]
  dsimp only
  cases rest with
  | nil => rfl
  | cons c tail =>
    obtain ⟨-, point, small, big⟩ := ends
    split
    · next h => exact absurd (List.cons.inj h).1 point
    · next h => exact absurd (List.cons.inj h).1 small
    · next h => exact absurd (List.cons.inj h).1 big
    · rfl

theorem takeWhile_digits {cs rest : List Char} (all : ∀ c ∈ cs, isDigit c = true)
    (ends : EndsNumber rest) : (cs ++ rest).takeWhile isDigit = cs := by
  rw [List.takeWhile_append_of_pos all]
  cases rest with
  | nil => simp
  | cons c tail => simp [ends.1]

theorem dropWhile_digits {cs rest : List Char} (all : ∀ c ∈ cs, isDigit c = true)
    (ends : EndsNumber rest) : (cs ++ rest).dropWhile isDigit = rest := by
  rw [List.dropWhile_append_of_pos all]
  cases rest with
  | nil => rfl
  | cons c tail => simp [ends.1]

/-- Digits are read back as a whole number. -/
theorem scanNumber_digits (negative : Bool) {n : Nat} (le : n ≤ maxNat64) {rest : List Char}
    (ends : EndsNumber rest) :
    scanNumber negative (digits n ++ rest) = .ok (wholeOf negative n, rest) := by
  have whole := scanAfterWhole_digits negative le ends
  rcases Nat.eq_zero_or_pos n with rfl | pos
  · rw [digits_zero] at whole ⊢
    cases rest with
    | nil => exact whole
    | cons c tail =>
      rw [List.singleton_append, scanNumber, ends.1]
      exact whole
  · obtain ⟨c, tail, eq, nonzero⟩ := digits_eq_cons pos
    have all : ∀ d ∈ c :: tail, isDigit d = true := fun d member =>
      isDigit_of_mem_digits (n := n) (by rwa [eq])
    rw [eq] at whole ⊢
    rw [List.cons_append, scanNumber]
    · rw [if_pos (all c (by simp)),
        takeWhile_digits (fun d member => all d (by simp [member])) ends,
        dropWhile_digits (fun d member => all d (by simp [member])) ends]
      exact whole
    · exact nonzero

theorem Whole.natAbs_le (w : Whole) : w.value.natAbs ≤ maxNat64 := by
  have ge := w.ge
  have lt := w.lt
  unfold maxNat64
  omega

theorem Whole.ofInt?_value (w : Whole) : ofInt? w.value = some w := by
  rw [ofInt?, dif_pos ⟨w.ge, w.lt⟩]

/-- The sign and the digits of a whole number stand for it. -/
theorem wholeOf_natAbs (w : Whole) : wholeOf (w.value < 0) w.value.natAbs = .whole w := by
  unfold wholeOf
  dsimp only
  have nonzero : ¬ (decide (w.value < 0) = true ∧ w.value.natAbs = 0) := by
    rw [decide_eq_true_eq]
    omega
  have signed : (if decide (w.value < 0) = true then -(w.value.natAbs : Int) else w.value.natAbs) =
      w.value := by
    by_cases negative : w.value < 0
    · rw [if_pos (by simpa using negative)]
      omega
    · rw [if_neg (by simpa using negative)]
      omega
  rw [if_neg nonzero, signed, w.ofInt?_value]

end RecordStore.Json
