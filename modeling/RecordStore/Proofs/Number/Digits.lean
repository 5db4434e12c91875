/-
RecordStore.Proofs.Number.Digits -- reading back the digits of a number

`digits` writes a number with decimal digits only, without a zero in front
(`digits_eq_cons`), and they denote the number again (`ofDigits_digits`).  A
reader with a limit takes all of them when the number keeps within the limit
(`readDigits_digits`), so integers survive being written and read
(`readInt?_integerText`).  What a reader takes is within its range
(`readInt?_range`).
-/
import RecordStore.Number.Whole

namespace RecordStore.Number

set_option autoImplicit false

theorem isDigit_iff {c : Char} : isDigit c = true ↔ 48 ≤ c.toNat ∧ c.toNat ≤ 57 := by
  simp only [isDigit, decide_eq_true_eq, Char.le_def, UInt32.le_iff_toNat_le]
  rfl

theorem digit?_of_isDigit {c : Char} (h : isDigit c = true) : digit? c = some (c.toNat - 48) := by
  rw [digit?, if_pos (by simpa [isDigit] using h)]

theorem ofDigits_cons (acc : Nat) (c : Char) (rest : List Char) :
    ofDigits acc (c :: rest) = ofDigits (acc * 10 + (c.toNat - 48)) rest := by
  delta ofDigits
  rfl

theorem ofDigits_eq_ofDigitChars (acc : Nat) (cs : List Char) :
    ofDigits acc cs = Nat.ofDigitChars 10 cs acc := by
  induction cs generalizing acc with
  | nil => exact Nat.ofDigitChars_nil.symm
  | cons c rest ih =>
    have zero : '0'.toNat = 48 := rfl
    rw [ofDigits_cons, ih, Nat.ofDigitChars_cons, zero, Nat.mul_comm 10 acc]

@[simp] theorem ofDigits_digits (n : Nat) : ofDigits 0 (digits n) = n := by
  rw [ofDigits_eq_ofDigitChars]
  exact Nat.ofDigitChars_ten_toDigits

theorem isDigit_of_mem_digits {n : Nat} {c : Char} (member : c ∈ digits n) :
    isDigit c = true := by
  have h := Nat.isDigit_of_mem_toDigits (by decide) (by decide) member
  simpa [isDigit, Char.isDigit, Char.le_def] using h

theorem digits_zero : digits 0 = ['0'] := rfl

/-- A positive number has no zero in front. -/
theorem digits_eq_cons {n : Nat} (pos : 0 < n) :
    ∃ c rest, digits n = c :: rest ∧ c ≠ '0' := by
  induction n using Nat.strongRecOn with
  | ind n ih =>
    by_cases small : n < 10
    · refine ⟨n.digitChar, [], Nat.toDigits_of_lt_base small, ?_⟩
      have : ∀ k, k < 10 → 0 < k → k.digitChar ≠ '0' := by decide
      exact this n small pos
    · obtain ⟨c, rest, eq, nonzero⟩ := ih (n / 10) (by omega) (by omega)
      refine ⟨c, rest ++ [(n % 10).digitChar], ?_, nonzero⟩
      rw [digits, Nat.toDigits_of_base_le (by decide) (by omega)]
      rw [digits] at eq
      rw [eq, List.cons_append]

theorem le_ofDigits (acc : Nat) (cs : List Char) : acc ≤ ofDigits acc cs := by
  induction cs generalizing acc with
  | nil => exact Nat.le_refl _
  | cons c rest ih => exact Nat.le_trans (by omega) (ih (acc * 10 + (c.toNat - 48)))

/-- Digits are read whole when their number keeps within the limit. -/
theorem readDigits_eq {limit acc : Nat} {cs : List Char} (all : ∀ c ∈ cs, isDigit c = true)
    (le : ofDigits acc cs ≤ limit) : readDigits limit acc cs = .ok (ofDigits acc cs) := by
  induction cs generalizing acc with
  | nil => rfl
  | cons c rest ih =>
    have next := Nat.le_trans (le_ofDigits (acc * 10 + (c.toNat - 48)) rest) le
    rw [readDigits, digit?_of_isDigit (all c (by simp))]
    dsimp only
    rw [if_pos next]
    exact ih (fun d member => all d (by simp [member])) le

theorem readDigits_digits {limit n : Nat} (le : n ≤ limit) :
    readDigits limit 0 (digits n) = .ok n := by
  rw [readDigits_eq (fun c => isDigit_of_mem_digits) (by simpa using le), ofDigits_digits]

theorem digits_ne_nil (n : Nat) : digits n ≠ [] := Nat.toDigits_ne_nil

/-- A text that begins with a digit has no sign. -/
theorem readInt?_cons {limit : Nat} {c : Char} {rest : List Char} (digit : isDigit c = true) :
    readInt? limit (c :: rest) = (readDigits limit 0 (c :: rest)).toOption.map Int.ofNat := by
  unfold readInt?
  split
  · simp_all
  · next h =>
    obtain ⟨rfl, -⟩ := List.cons.inj h
    simp [isDigit] at digit
  · next h =>
    obtain ⟨rfl, -⟩ := List.cons.inj h
    simp [isDigit] at digit
  · rfl

/-- Integers of the range are read back from their text. -/
theorem readInt?_integerText {limit : Nat} {i : Int} (ge : -(limit : Int) - 1 ≤ i)
    (le : i ≤ limit) : readInt? limit (integerText i).toList = some i := by
  unfold integerText
  split
  · next negative =>
    simp only [String.toList_ofList, readInt?, List.isEmpty_iff, digits_ne_nil, if_false]
    rw [readDigits_digits (by omega)]
    simp only [Except.toOption, Option.map_some, Option.some.injEq, Int.ofNat_eq_natCast]
    omega
  · next positive =>
    obtain ⟨c, rest, eq⟩ := List.exists_cons_of_ne_nil (digits_ne_nil i.natAbs)
    have digit : isDigit c = true := isDigit_of_mem_digits (n := i.natAbs) (by simp [eq])
    rw [String.toList_ofList, eq, readInt?_cons digit, ← eq, readDigits_digits (by omega)]
    simp only [Except.toOption, Option.map_some, Option.some.injEq, Int.ofNat_eq_natCast]
    omega

/-! ## The range of a reader -/

theorem readDigits_le {limit acc n : Nat} {cs : List Char} (within : acc ≤ limit)
    (read : readDigits limit acc cs = .ok n) : n ≤ limit := by
  induction cs generalizing acc with
  | nil =>
    cases read
    exact within
  | cons c rest ih =>
    rw [readDigits] at read
    split at read
    · cases read
    · split at read
      · next fits => exact ih fits read
      · cases read

theorem le_of_toOption_readDigits {limit n : Nat} {cs : List Char}
    (read : (readDigits limit 0 cs).toOption = some n) : n ≤ limit := by
  cases ended : readDigits limit 0 cs with
  | error fault =>
    rw [ended] at read
    cases read
  | ok _ =>
    rw [ended] at read
    cases read
    exact readDigits_le (Nat.zero_le limit) ended

/-- A whole number that is read is one of the range. -/
theorem readInt?_range {limit : Nat} {cs : List Char} {i : Int}
    (read : readInt? limit cs = some i) : -(limit : Int) - 1 ≤ i ∧ i ≤ limit := by
  have unsigned {rest : List Char}
      (read : (readDigits limit 0 rest).toOption.map Int.ofNat = some i) :
      -(limit : Int) - 1 ≤ i ∧ i ≤ limit := by
    obtain ⟨n, digits, rfl⟩ := Option.map_eq_some_iff.1 read
    have le := le_of_toOption_readDigits digits
    rw [Int.ofNat_eq_natCast]
    omega
  unfold readInt? at read
  split at read
  · cases read
  · exact unsigned (Option.ite_none_left_eq_some.1 read).2
  · obtain ⟨-, read⟩ := Option.ite_none_left_eq_some.1 read
    obtain ⟨n, digits, rfl⟩ := Option.map_eq_some_iff.1 read
    have le := le_of_toOption_readDigits digits
    rw [Int.ofNat_eq_natCast]
    omega
  · exact unsigned read

end RecordStore.Number
