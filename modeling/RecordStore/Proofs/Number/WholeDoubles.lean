/-
RecordStore.Proofs.Number.WholeDoubles -- whole numbers as doubles

A whole number up to `2^53` has at most fifty-three binary digits, or is a power of
two, so it is a double.  Rounding a quotient finds the place of its first binary
digit (`magnitude_mul`), and where the quotient is such a number nothing is left
over at the last place, so the double is the number (`truncate_round`).
-/
import Mathlib.Algebra.Group.Nat.Defs
import RecordStore.Number.Binary64

namespace RecordStore.Number

set_option autoImplicit false

theorem scale_natCast (m num den : Nat) : scale m num den = (num * 2 ^ m, den) := by
  rw [scale, if_pos (Int.natCast_nonneg m), Int.toNat_natCast, Nat.shiftLeft_eq]

theorem scale_neg_natCast (m num den : Nat) : scale (-(m : Int)) num den = (num, den * 2 ^ m) := by
  cases m with
  | zero => rw [scale, if_pos (by decide), Nat.pow_zero, Nat.mul_one]; rfl
  | succ m => rw [scale, if_neg (by omega), Int.neg_neg, Int.toNat_natCast, Nat.shiftLeft_eq]

/-- A quotient without a remainder is not rounded. -/
theorem roundDiv_mul (k : Nat) {den : Nat} (den_pos : 0 < den) : roundDiv (k * den) den = k := by
  unfold roundDiv
  simp only [Nat.mul_div_cancel k den_pos, Nat.mul_mod_left, Nat.mul_zero, den_pos, if_true]

namespace Binary64

/-- The first binary digit of a product is where those of the factors are together, or one place
higher. -/
theorem log2_mul {k den : Nat} (pos : 0 < k) (den_pos : 0 < den) :
    Nat.log2 (k * den) = Nat.log2 k + Nat.log2 den ∨
      Nat.log2 (k * den) = Nat.log2 k + Nat.log2 den + 1 := by
  have nonzero : k * den ≠ 0 := Nat.ne_of_gt (Nat.mul_pos pos den_pos)
  have low : 2 ^ (Nat.log2 k + Nat.log2 den) ≤ k * den := by
    rw [Nat.pow_add]
    exact Nat.mul_le_mul (Nat.log2_self_le (Nat.ne_of_gt pos))
      (Nat.log2_self_le (Nat.ne_of_gt den_pos))
  have high : k * den < 2 ^ (Nat.log2 k + Nat.log2 den + 2) := by
    have split : 2 ^ (Nat.log2 k + Nat.log2 den + 2) =
        2 ^ (Nat.log2 k + 1) * 2 ^ (Nat.log2 den + 1) := by
      rw [← Nat.pow_add]
      congr 1
      omega
    rw [split]
    exact Nat.mul_lt_mul_of_lt_of_lt Nat.lt_log2_self Nat.lt_log2_self
  have ge := (Nat.le_log2 nonzero).2 low
  have lt := (Nat.log2_lt nonzero).2 high
  omega

/-- The magnitude of a quotient that is a whole number is the place of its first binary digit. -/
theorem magnitude_mul {k den : Nat} (pos : 0 < k) (den_pos : 0 < den) :
    magnitude (k * den) den = Nat.log2 k := by
  have nonzero := Nat.ne_of_gt pos
  unfold magnitude
  rcases log2_mul pos den_pos with same | above
  · have place : ((k * den).log2 : Int) - den.log2 = (Nat.log2 k : Nat) := by omega
    have le : den * 2 ^ Nat.log2 k ≤ k * den := by
      rw [Nat.mul_comm k den]
      exact Nat.mul_le_mul_left den (Nat.log2_self_le nonzero)
    simp only [place, scale_neg_natCast, le, if_true]
  · have place : ((k * den).log2 : Int) - den.log2 = (Nat.log2 k + 1 : Nat) := by omega
    have lt : ¬ den * 2 ^ (Nat.log2 k + 1) ≤ k * den := by
      rw [Nat.mul_comm k den]
      exact Nat.not_le.2 (Nat.mul_lt_mul_of_pos_left Nat.lt_log2_self den_pos)
    simp only [place, scale_neg_natCast, lt, if_false]
    omega

/-- The double that a quotient is rounded to, where the significand is known. -/
theorem round_eq_some (negative : Bool) {num den significand : Nat} {exponent : Int}
    (nonzero : num ≠ 0) (place : quantum num den = exponent)
    (rounded : roundDiv (scale (-exponent) num den).1 (scale (-exponent) num den).2 = significand)
    (low : 2 ^ 52 ≤ significand) (high : significand < 2 ^ 53) (ge : -1074 ≤ exponent)
    (le : exponent ≤ 971) :
    ∃ x, round negative num den = some x ∧ x.negative = negative ∧
      x.significand = significand ∧ x.exponent = exponent := by
  have carry : significand ≠ 1 <<< 53 := Nat.ne_of_lt high
  rw [round, if_neg nonzero]
  simp only [place, rounded]
  rw [if_neg carry, ofParts?, dif_pos ⟨high, ge, le, .inl low⟩]
  exact ⟨_, rfl, rfl, rfl, rfl⟩

/-- A whole number of at most fifty-three binary digits, moved up to the highest place, is the
significand. -/
theorem truncate_round_of_lt (negative : Bool) {k den : Nat} (pos : 0 < k) (small : k < 2 ^ 53)
    (den_pos : 0 < den) :
    (round negative (k * den) den).map truncate = some (if negative then -(k : Int) else k) := by
  have nonzero := Nat.ne_of_gt pos
  have digits : Nat.log2 k ≤ 52 := Nat.le_of_lt_succ ((Nat.log2_lt nonzero).2 small)
  obtain ⟨up, ups⟩ : ∃ up, Nat.log2 k + up = 52 := ⟨52 - Nat.log2 k, by omega⟩
  have low : 2 ^ 52 ≤ k * 2 ^ up := by
    rw [← ups, Nat.pow_add]
    exact Nat.mul_le_mul_right _ (Nat.log2_self_le nonzero)
  have high : k * 2 ^ up < 2 ^ 53 := by
    have split : (2 : Nat) ^ 53 = 2 ^ (Nat.log2 k + 1) * 2 ^ up := by
      rw [← Nat.pow_add]
      congr 1
      omega
    rw [split]
    exact Nat.mul_lt_mul_of_pos_right Nat.lt_log2_self (Nat.two_pow_pos up)
  have place : quantum (k * den) den = -(up : Int) := by
    rw [quantum, magnitude_mul pos den_pos]
    omega
  have rounded : roundDiv (scale (- -(up : Int)) (k * den) den).1
      (scale (- -(up : Int)) (k * den) den).2 = k * 2 ^ up := by
    rw [Int.neg_neg, scale_natCast, Nat.mul_right_comm]
    exact roundDiv_mul _ den_pos
  obtain ⟨x, made, sign, significand, exponent⟩ :=
    round_eq_some negative (Nat.ne_of_gt (Nat.mul_pos pos den_pos)) place rounded low high
      (by omega) (by omega)
  have back : k * 2 ^ up / (1 * 2 ^ up) = k := by
    rw [Nat.one_mul, Nat.mul_div_cancel k (Nat.two_pow_pos up)]
  rw [made, Option.map_some, truncate, ratio, sign, significand, exponent, scale_neg_natCast]
  simp only [back]

/-- The power of two has one binary digit too many, but the last one is zero. -/
theorem truncate_round_pow (negative : Bool) {den : Nat} (den_pos : 0 < den) :
    (round negative (2 ^ 53 * den) den).map truncate =
      some (if negative then -((2 ^ 53 : Nat) : Int) else (2 ^ 53 : Nat)) := by
  have place : quantum (2 ^ 53 * den) den = 1 := by
    rw [quantum, magnitude_mul (by decide) den_pos, Nat.log2_two_pow]
    decide
  have rounded : roundDiv (scale (-1) (2 ^ 53 * den) den).1 (scale (-1) (2 ^ 53 * den) den).2 =
      2 ^ 52 := by
    have halved : 2 ^ 53 * den = 2 ^ 52 * (den * 2 ^ 1) := by omega
    rw [show (-1 : Int) = -(1 : Nat) from rfl, scale_neg_natCast]
    dsimp only
    rw [halved, roundDiv_mul _ (by omega)]
  obtain ⟨x, made, sign, significand, exponent⟩ :=
    round_eq_some negative (by omega) place rounded (by decide) (by decide) (by decide) (by decide)
  rw [made, Option.map_some, truncate, ratio, sign, significand, exponent]
  rfl

/-- **Whole numbers are doubles.**  A quotient that is a whole number up to `2^53` is rounded to the
double that is the number. -/
theorem truncate_round (negative : Bool) {k den : Nat} (small : k ≤ 2 ^ 53) (den_pos : 0 < den) :
    (round negative (k * den) den).map truncate = some (if negative then -(k : Int) else k) := by
  rcases Nat.eq_zero_or_pos k with rfl | pos
  · rw [Nat.zero_mul, round, if_pos rfl]
    cases negative <;> rfl
  · rcases Nat.lt_or_eq_of_le small with below | rfl
    · exact truncate_round_of_lt negative pos below den_pos
    · exact truncate_round_pow negative den_pos

end Binary64

end RecordStore.Number
