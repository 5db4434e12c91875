/-
RecordStore.Proofs.Number.Spelling -- the spellings of a decimal number

A number may be spelled with a sign, with zeros in front of its digits and behind
them, with a fraction and with an exponent (`Spelling`).  What a spelling denotes is
said digit by digit, as a fraction.  A reader takes all of its digits for one whole
number and moves the point into the exponent (`read?_chars`), which denotes the same
(`magnitude_eq`), and it takes nothing but spellings (`read?_isSome_iff`).  So a
spelling of a whole number up to `2^53` is read as that number through a double
(`truncate_chars`), and a reader of whole numbers, which takes plain spellings only,
takes them for what they denote (`readInt?_denotes`).
-/
import Mathlib.Algebra.Order.Field.Power
import Mathlib.Data.List.TakeWhile
import Mathlib.Data.Rat.Cast.Order
import Mathlib.Tactic.FieldSimp
import Mathlib.Tactic.NormNum
import Mathlib.Tactic.Positivity
import Mathlib.Tactic.Ring
import RecordStore.Number.Scientific
import RecordStore.Proofs.Number.Digits
import RecordStore.Proofs.Number.WholeDoubles

namespace RecordStore.Number

set_option autoImplicit false

/-! ## Spellings -/

/-- What stands before the digits of a number. -/
inductive SignMark
  | absent
  | plus
  | minus
  deriving DecidableEq

namespace SignMark

def chars : SignMark → List Char
  | .absent => []
  | .plus => ['+']
  | .minus => ['-']

def isMinus : SignMark → Bool
  | .minus => true
  | _ => false

/-- A magnitude with the sign. -/
def apply {α : Type} [Neg α] (s : SignMark) (x : α) : α := if s.isMinus then -x else x

end SignMark

/-- All characters are decimal digits. -/
def Digits (cs : List Char) : Prop := ∀ c ∈ cs, isDigit c = true

instance (cs : List Char) : Decidable (Digits cs) :=
  List.decidableBAll (fun c => isDigit c = true) cs

/-- An exponent with its mark. -/
structure ExponentPart where
  mark : Char
  sign : SignMark
  digits : List Char
  marks : mark = 'e' ∨ mark = 'E'
  some_ : digits ≠ []
  each : Digits digits

namespace ExponentPart

def chars (e : ExponentPart) : List Char := e.mark :: (e.sign.chars ++ e.digits)

def value (e : ExponentPart) : Int := e.sign.apply (ofDigits 0 e.digits : Int)

end ExponentPart

/-- A number as it is spelled.  Digits may be missing before the point or after it, but not on both
sides. -/
structure Spelling where
  sign : SignMark
  whole : List Char
  fraction? : Option (List Char)
  exponent? : Option ExponentPart
  whole_digits : Digits whole
  fraction_digits : ∀ fraction, fraction? = some fraction → Digits fraction
  some_ : whole ++ fraction?.getD [] ≠ []

namespace Spelling

variable (s : Spelling)

/-- The digits after the point. -/
def fraction : List Char := s.fraction?.getD []

def exponent : Int := (s.exponent?.map ExponentPart.value).getD 0

/-- The point with the digits after it. -/
def pointChars : List Char := (s.fraction?.map ('.' :: ·)).getD []

def exponentChars : List Char := (s.exponent?.map ExponentPart.chars).getD []

def unsignedChars : List Char := s.whole ++ (s.pointChars ++ s.exponentChars)

def chars : List Char := s.sign.chars ++ s.unsignedChars

def text : String := .ofList s.chars

/-- What the spelling denotes without its sign. -/
def magnitude : ℚ :=
  (ofDigits 0 s.whole + ofDigits 0 s.fraction / 10 ^ s.fraction.length) * 10 ^ s.exponent

/-- The number that the spelling denotes. -/
def value : ℚ := s.sign.apply s.magnitude

/-- Digits only, with a sign or without. -/
def Plain : Prop := s.fraction? = none ∧ s.exponent? = none

end Spelling

/-! ## Digits -/

theorem ofDigits_nil (acc : Nat) : ofDigits acc [] = acc := by
  delta ofDigits
  rfl

/-- What stands in front of digits is moved up by as many places. -/
theorem ofDigits_eq_add (acc : Nat) (cs : List Char) :
    ofDigits acc cs = acc * 10 ^ cs.length + ofDigits 0 cs := by
  induction cs generalizing acc with
  | nil => rw [ofDigits_nil, ofDigits_nil, List.length_nil, pow_zero, mul_one, add_zero]
  | cons c rest ih =>
    rw [ofDigits_cons, ofDigits_cons, ih, ih (0 * 10 + (c.toNat - 48)), List.length_cons, pow_succ]
    ring

theorem ofDigits_append (acc : Nat) (first rest : List Char) :
    ofDigits acc (first ++ rest) = ofDigits acc first * 10 ^ rest.length + ofDigits 0 rest := by
  rw [ofDigits_eq_ofDigitChars, Nat.ofDigitChars_append, ← ofDigits_eq_ofDigitChars,
    ← ofDigits_eq_ofDigitChars, ofDigits_eq_add]

/-- Digits are taken up to where something else begins. -/
theorem takeWhile_isDigit {cs rest : List Char} (all : Digits cs)
    (ends : ∀ c ∈ rest.head?, isDigit c = false) :
    (cs ++ rest).takeWhile isDigit = cs ∧ (cs ++ rest).dropWhile isDigit = rest := by
  rw [List.takeWhile_append_of_pos all, List.dropWhile_append_of_pos all]
  cases rest with
  | nil => simp
  | cons c tail =>
    have other : isDigit c = false := ends c rfl
    simp [other]

/-- Digits are no sign. -/
theorem ne_sign_of_isDigit {c : Char} (digit : isDigit c = true) : c ≠ '+' ∧ c ≠ '-' := by
  constructor <;> rintro rfl <;> exact absurd digit (by decide)

/-- What a reader of digits takes consists of digits, and it takes them for what they denote. -/
theorem ofDigits_of_readDigits {limit acc n : Nat} {cs : List Char}
    (read : readDigits limit acc cs = .ok n) : Digits cs ∧ ofDigits acc cs = n := by
  induction cs generalizing acc with
  | nil =>
    cases read
    exact ⟨nofun, rfl⟩
  | cons c rest ih =>
    rw [readDigits] at read
    split at read
    · cases read
    · next d shown =>
      split at read
      · obtain ⟨digits, denotes⟩ := ih read
        unfold digit? at shown
        split at shown
        · next digit =>
          cases shown
          have all : Digits (c :: rest) :=
            List.forall_mem_cons.2 ⟨by simpa [isDigit] using digit, digits⟩
          exact ⟨all, by rw [ofDigits_cons, denotes]⟩
        · cases shown
      · cases read

/-! ## Reading a spelling -/

theorem ExponentPart.readExponent?_chars (e : ExponentPart) :
    Scientific.readExponent? e.chars = some e.value := by
  obtain ⟨mark, sign, digits, marks, nonempty, each⟩ := e
  have all : digits.all isDigit = true := List.all_eq_true.2 each
  have taken : (digits.isEmpty || !digits.all isDigit) = false := by simp [all, nonempty]
  cases sign with
  | absent =>
    cases digits with
    | nil => exact absurd rfl nonempty
    | cons c rest =>
      obtain ⟨noPlus, noMinus⟩ := ne_sign_of_isDigit (each c List.mem_cons_self)
      simp only [chars, SignMark.chars, List.nil_append, Scientific.readExponent?, marks, if_true]
      split
      · next h => exact absurd (List.cons.inj h).1 noPlus
      · next h => exact absurd (List.cons.inj h).1 noMinus
      · rw [taken]; rfl
  | plus =>
    simp only [chars, SignMark.chars, List.cons_append, List.nil_append, Scientific.readExponent?,
      marks, if_true, taken]
    rfl
  | minus =>
    simp only [chars, SignMark.chars, List.cons_append, List.nil_append, Scientific.readExponent?,
      marks, if_true, taken]
    rfl

namespace Spelling

variable (s : Spelling)

theorem readExponent?_exponentChars :
    Scientific.readExponent? s.exponentChars = some s.exponent := by
  unfold exponentChars exponent
  cases s.exponent? with
  | none => rfl
  | some e => exact e.readExponent?_chars

/-- The exponent begins with its mark, which is no digit and no point. -/
theorem head?_exponentChars :
    ∀ c ∈ s.exponentChars.head?, isDigit c = false ∧ c ≠ '.' := by
  unfold exponentChars
  cases s.exponent? with
  | none => nofun
  | some e =>
    intro c first
    obtain rfl : e.mark = c := Option.some.inj first
    rcases e.marks with mark | mark <;> rw [mark] <;> decide

/-- Without its sign a spelling begins with a digit or the point. -/
theorem unsignedChars_eq_cons : ∃ c rest, s.unsignedChars = c :: rest ∧ c ≠ '+' ∧ c ≠ '-' := by
  unfold unsignedChars
  cases whole : s.whole with
  | cons c rest =>
    exact ⟨c, _, List.cons_append,
      ne_sign_of_isDigit (s.whole_digits c (whole ▸ List.mem_cons_self))⟩
  | nil =>
    unfold pointChars
    cases point : s.fraction? with
    | some fraction => exact ⟨'.', _, rfl, by decide, by decide⟩
    | none =>
      have := s.some_
      rw [whole, point] at this
      exact absurd rfl this

theorem readUnsigned?_unsignedChars (negative : Bool) :
    Scientific.readUnsigned? negative s.unsignedChars =
      some ⟨negative, ofDigits 0 (s.whole ++ s.fraction), s.exponent - s.fraction.length⟩ := by
  have tail := s.readExponent?_exponentChars
  have mark := s.head?_exponentChars
  have nonempty := s.some_
  unfold unsignedChars pointChars fraction Scientific.readUnsigned?
  cases point : s.fraction? with
  | some fraction =>
    have stop : ∀ c ∈ ('.' :: (fraction ++ s.exponentChars)).head?, isDigit c = false := by
      rintro c ⟨⟩
      decide
    obtain ⟨taken, left⟩ := takeWhile_isDigit s.whole_digits stop
    obtain ⟨taken', left'⟩ := takeWhile_isDigit (s.fraction_digits fraction point)
      fun c first => (mark c first).1
    rw [point] at nonempty
    have some_ : (s.whole.isEmpty && fraction.isEmpty) = false := by
      simpa [List.isEmpty_iff] using nonempty
    simp only [Option.map_some, Option.getD_some, List.cons_append, taken, left, taken', left',
      some_, tail]
    rfl
  | none =>
    obtain ⟨taken, left⟩ := takeWhile_isDigit s.whole_digits fun c first => (mark c first).1
    rw [point] at nonempty
    have some_ : s.whole.isEmpty = false := by simpa [List.isEmpty_iff] using nonempty
    simp only [Option.map_none, Option.getD_none, List.nil_append, List.append_nil, taken, left,
      some_]
    split
    · next rest begins =>
      rw [begins] at mark
      exact absurd rfl (mark '.' rfl).2
    · rw [tail]
      simp

/-- All digits are taken for one whole number, and the point is moved into the exponent. -/
theorem read?_chars : Scientific.read? s.chars =
    some ⟨s.sign.isMinus, ofDigits 0 (s.whole ++ s.fraction),
      s.exponent - s.fraction.length⟩ := by
  unfold chars
  cases s.sign with
  | plus => exact s.readUnsigned?_unsignedChars false
  | minus => exact s.readUnsigned?_unsignedChars true
  | absent =>
    have read := s.readUnsigned?_unsignedChars false
    obtain ⟨c, rest, begins, noPlus, noMinus⟩ := s.unsignedChars_eq_cons
    rw [begins] at read ⊢
    unfold Scientific.read?
    simp only [SignMark.chars, List.nil_append]
    split
    · next h => exact absurd (List.cons.inj h).1 noPlus
    · next h => exact absurd (List.cons.inj h).1 noMinus
    · exact read

/-- Moving the point does not change what is denoted. -/
theorem magnitude_eq : s.magnitude =
    (ofDigits 0 (s.whole ++ s.fraction) : ℚ) * 10 ^ (s.exponent - s.fraction.length) := by
  have ten : (10 : ℚ) ≠ 0 := by norm_num
  rw [magnitude, ofDigits_append, zpow_sub₀ ten, zpow_natCast]
  push_cast
  field_simp

theorem readInt?_chars (limit : Nat) : readInt? limit s.chars =
    (readDigits (if s.sign.isMinus then limit + 1 else limit) 0 s.unsignedChars).toOption.map
      fun n : Nat => s.sign.apply (n : Int) := by
  obtain ⟨c, rest, begins, noPlus, noMinus⟩ := s.unsignedChars_eq_cons
  unfold chars
  rw [begins]
  cases s.sign with
  | plus => rfl
  | minus => rfl
  | absent =>
    unfold readInt?
    simp only [SignMark.chars, List.nil_append]
    split
    · next h => exact absurd h (List.cons_ne_nil _ _)
    · next h => exact absurd (List.cons.inj h).1 noPlus
    · next h => exact absurd (List.cons.inj h).1 noMinus
    · rfl

variable {s}

theorem Plain.unsignedChars_eq (plain : s.Plain) : s.unsignedChars = s.whole := by
  rw [unsignedChars, pointChars, exponentChars, plain.1, plain.2]
  simp

theorem Plain.value_eq (plain : s.Plain) :
    s.value = (s.sign.apply (ofDigits 0 s.whole : Int) : Int) := by
  rw [value, magnitude, fraction, exponent, plain.1, plain.2, SignMark.apply, SignMark.apply]
  split <;> simp [ofDigits_nil]

/-- A spelling of digits only is plain. -/
theorem plain_of_digits (all : Digits s.unsignedChars) : s.Plain := by
  constructor
  · cases point : s.fraction? with
    | none => rfl
    | some fraction =>
      have member : '.' ∈ s.unsignedChars := by simp [unsignedChars, pointChars, point]
      exact absurd (all _ member) (by decide)
  · cases exponent : s.exponent? with
    | none => rfl
    | some e =>
      have member : e.mark ∈ s.unsignedChars := by
        simp [unsignedChars, exponentChars, exponent, ExponentPart.chars]
      have digit := all _ member
      rcases e.marks with mark | mark <;> rw [mark] at digit <;> exact absurd digit (by decide)

/-- What a reader of whole numbers takes is plain, and is taken for what it denotes. -/
theorem readInt?_denotes {limit : Nat} {i : Int} (read : readInt? limit s.chars = some i) :
    s.Plain ∧ s.value = i := by
  rw [readInt?_chars] at read
  obtain ⟨n, digits, rfl⟩ := Option.map_eq_some_iff.1 read
  cases taken : readDigits (if s.sign.isMinus then limit + 1 else limit) 0 s.unsignedChars with
  | error fault =>
    rw [taken] at digits
    cases digits
  | ok m =>
    rw [taken] at digits
    cases digits
    obtain ⟨all, denotes⟩ := ofDigits_of_readDigits taken
    have plain := plain_of_digits all
    rw [plain.unsignedChars_eq] at denotes
    rw [plain.value_eq, denotes]
    exact ⟨plain, rfl⟩

/-- A plain spelling of a number in range is read. -/
theorem Plain.readInt?_eq (plain : s.Plain) {limit : Nat} {n : Int} (denotes : s.value = n)
    (ge : -(limit : Int) - 1 ≤ n) (le : n ≤ limit) : readInt? limit s.chars = some n := by
  rw [plain.value_eq, Int.cast_inj] at denotes
  have within : ofDigits 0 s.whole ≤ if s.sign.isMinus then limit + 1 else limit := by
    unfold SignMark.apply at denotes
    split at denotes <;> split <;> omega
  rw [readInt?_chars, plain.unsignedChars_eq, readDigits_eq s.whole_digits within, ← denotes]
  rfl

end Spelling

/-! ## Spellings are what is read -/

theorem exists_exponentPart {cs : List Char} (accepted : (Scientific.readExponent? cs).isSome) :
    ∃ part? : Option ExponentPart, (part?.map ExponentPart.chars).getD [] = cs := by
  have digits {ds : List Char} {α : Type} {x : α}
      (taken : (if ds.isEmpty || !ds.all isDigit then none else some x).isSome) :
      ds ≠ [] ∧ Digits ds := by
    simpa [Digits] using taken
  unfold Scientific.readExponent? at accepted
  split at accepted
  · exact ⟨none, rfl⟩
  · next mark rest =>
    split at accepted
    · next marks =>
      split at accepted
      · next ds =>
        obtain ⟨nonempty, each⟩ := digits accepted
        exact ⟨some ⟨mark, .plus, ds, marks, nonempty, each⟩, rfl⟩
      · next ds =>
        obtain ⟨nonempty, each⟩ := digits accepted
        exact ⟨some ⟨mark, .minus, ds, marks, nonempty, each⟩, rfl⟩
      · obtain ⟨nonempty, each⟩ := digits accepted
        exact ⟨some ⟨mark, .absent, rest, marks, nonempty, each⟩, rfl⟩
    · cases accepted

/-- What is read without a sign is spelled with any sign in front. -/
theorem exists_unsigned {negative : Bool} {cs : List Char} (sign : SignMark)
    (accepted : (Scientific.readUnsigned? negative cs).isSome) :
    ∃ s : Spelling, s.chars = sign.chars ++ cs := by
  have whole_digits : Digits (cs.takeWhile isDigit) := fun _ member => List.mem_takeWhile_imp member
  unfold Scientific.readUnsigned? at accepted
  dsimp only at accepted
  split at accepted
  · next rest point =>
    split at accepted
    · cases accepted
    · next some_ =>
      rw [Option.isSome_map] at accepted
      obtain ⟨exponent?, spelled⟩ := exists_exponentPart accepted
      refine ⟨⟨sign, cs.takeWhile isDigit, some (rest.takeWhile isDigit), exponent?, whole_digits,
        ?_, ?_⟩, ?_⟩
      · rintro _ ⟨⟩ _ member
        exact List.mem_takeWhile_imp member
      · simpa [List.isEmpty_iff] using some_
      · simp only [Spelling.chars, Spelling.unsignedChars, Spelling.pointChars,
          Spelling.exponentChars, spelled, Option.map_some, Option.getD_some, List.cons_append,
          List.takeWhile_append_dropWhile, ← point]
  · split at accepted
    · cases accepted
    · next some_ =>
      rw [Option.isSome_map] at accepted
      obtain ⟨exponent?, spelled⟩ := exists_exponentPart accepted
      refine ⟨⟨sign, cs.takeWhile isDigit, none, exponent?, whole_digits, nofun, ?_⟩, ?_⟩
      · simpa [List.isEmpty_iff] using some_
      · simp only [Spelling.chars, Spelling.unsignedChars, Spelling.pointChars,
          Spelling.exponentChars, spelled, Option.map_none, Option.getD_none, List.nil_append,
          List.takeWhile_append_dropWhile]

/-- A reader takes the spellings and nothing else. -/
theorem read?_isSome_iff {cs : List Char} :
    (Scientific.read? cs).isSome ↔ ∃ s : Spelling, s.chars = cs := by
  constructor
  · intro accepted
    unfold Scientific.read? at accepted
    split at accepted
    · exact exists_unsigned .plus accepted
    · exact exists_unsigned .minus accepted
    · exact exists_unsigned .absent accepted
  · rintro ⟨s, rfl⟩
    rw [s.read?_chars]
    rfl

/-! ## Doubles -/

/-- The length of the digits says between which powers of ten a positive number is. -/
theorem length_digits {n : Nat} (pos : 0 < n) :
    10 ^ ((digits n).length - 1) ≤ n ∧ n < 10 ^ (digits n).length := by
  have some_ : 0 < (digits n).length := List.length_pos_iff.2 (digits_ne_nil n)
  constructor
  · by_contra above
    rcases Nat.eq_zero_or_pos ((digits n).length - 1) with single | more
    · rw [single] at above
      omega
    · have := (Nat.length_toDigits_le_iff (n := n) (by decide : 1 < 10) more).2 (Nat.not_le.1 above)
      unfold digits at some_ this
      omega
  · exact (Nat.length_toDigits_le_iff (by decide) some_).1 (Nat.le_refl _)

theorem length_digits_cast {n : Nat} (pos : 0 < n) :
    (10 : ℚ) ^ (((digits n).length : ℤ) - 1) ≤ n ∧ (n : ℚ) < 10 ^ ((digits n).length : ℤ) := by
  obtain ⟨low, high⟩ := length_digits pos
  have some_ : 0 < (digits n).length := List.length_pos_iff.2 (digits_ne_nil n)
  constructor
  · have : ((10 ^ ((digits n).length - 1) : ℕ) : ℚ) ≤ n := Nat.cast_le.2 low
    rw [← Nat.cast_pred some_, zpow_natCast]
    exact_mod_cast this
  · rw [zpow_natCast]
    exact_mod_cast high

namespace Scientific

/-- A whole number of at most `2^53` is far from where the exponent is too large or too small. -/
theorem exponent_range {s : Scientific} {k : Nat} (pos : 0 < s.digits) (small : k ≤ 2 ^ 53)
    (denotes : (s.digits : ℚ) * 10 ^ s.exponent = k) :
    0 < s.exponent + (Number.digits s.digits).length ∧
      s.exponent + (Number.digits s.digits).length ≤ 16 := by
  obtain ⟨low, high⟩ := length_digits_cast pos
  set length := (Number.digits s.digits).length
  have ten : (10 : ℚ) ≠ 0 := by norm_num
  have ten_lt : (1 : ℚ) < 10 := by norm_num
  have scale_pos : (0 : ℚ) < 10 ^ s.exponent := zpow_pos (by norm_num) _
  have k_pos : (1 : ℚ) ≤ k := by
    have : (0 : ℚ) < k := denotes ▸ mul_pos (Nat.cast_pos.2 pos) scale_pos
    exact_mod_cast this
  constructor
  · have : (10 : ℚ) ^ (0 : ℤ) < 10 ^ (s.exponent + length) := by
      calc (10 : ℚ) ^ (0 : ℤ) ≤ k := by rw [zpow_zero]; exact k_pos
        _ = s.digits * 10 ^ s.exponent := denotes.symm
        _ < 10 ^ (length : ℤ) * 10 ^ s.exponent := mul_lt_mul_of_pos_right high scale_pos
        _ = 10 ^ (s.exponent + length) := by rw [zpow_add₀ ten, mul_comm]
    exact (zpow_lt_zpow_iff_right₀ ten_lt).1 this
  · have : (10 : ℚ) ^ (s.exponent + length - 1) < 10 ^ (16 : ℤ) := by
      calc (10 : ℚ) ^ (s.exponent + length - 1)
          = 10 ^ ((length : ℤ) - 1) * 10 ^ s.exponent := by
            rw [← zpow_add₀ ten]
            congr 1
            ring
        _ ≤ s.digits * 10 ^ s.exponent := mul_le_mul_of_nonneg_right low scale_pos.le
        _ = k := denotes
        _ ≤ (2 ^ 53 : ℕ) := Nat.cast_le.2 small
        _ < 10 ^ (16 : ℤ) := by norm_num
    have := (zpow_lt_zpow_iff_right₀ ten_lt).1 this
    omega

/-- A notation of a whole number up to `2^53` is rounded to the double that is the number. -/
theorem truncate_toBinary64 {s : Scientific} {k : Nat} (small : k ≤ 2 ^ 53)
    (denotes : (s.digits : ℚ) * 10 ^ s.exponent = k) :
    s.toBinary64.map Binary64.truncate = some (if s.negative then -(k : Int) else k) := by
  unfold toBinary64
  rcases Nat.eq_zero_or_pos s.digits with zero | pos
  · have k_zero : k = 0 := by
      rw [zero, Nat.cast_zero, zero_mul] at denotes
      exact_mod_cast denotes.symm
    rw [if_pos zero, k_zero]
    exact Binary64.truncate_round s.negative (Nat.zero_le _) Nat.one_pos
  · obtain ⟨above, below⟩ := exponent_range pos small denotes
    dsimp only
    rw [if_neg (Nat.ne_of_gt pos), if_neg (by omega), if_neg (by omega)]
    have pow_eq (e : Nat) : Nat.pow 10 e = 10 ^ e := rfl
    rcases Int.lt_or_le s.exponent 0 with down | up
    · obtain ⟨e, exponent⟩ := Int.eq_ofNat_of_zero_le (Int.neg_nonneg_of_nonpos down.le)
      have whole : s.digits = k * 10 ^ e := by
        have scale_pos : (0 : ℚ) < 10 ^ e := pow_pos (by norm_num) e
        rw [Int.eq_neg_comm.1 exponent.symm, zpow_neg, zpow_natCast, ← div_eq_mul_inv,
          div_eq_iff scale_pos.ne'] at denotes
        exact_mod_cast denotes
      have rounded :=
        Binary64.truncate_round s.negative small (Nat.pow_pos (n := e) (Nat.succ_pos 9))
      rw [if_neg (Int.not_le.2 down), exponent, Int.toNat_natCast, pow_eq, whole]
      exact rounded
    · obtain ⟨e, exponent⟩ := Int.eq_ofNat_of_zero_le up
      have whole : s.digits * 10 ^ e = k := by
        rw [exponent, zpow_natCast] at denotes
        exact_mod_cast denotes
      have rounded := Binary64.truncate_round s.negative small Nat.one_pos
      rw [if_pos up, exponent, Int.toNat_natCast, pow_eq, whole]
      rwa [Nat.mul_one] at rounded

end Scientific

namespace Spelling

variable {s : Spelling}

theorem magnitude_nonneg : 0 ≤ s.magnitude := by
  unfold magnitude
  positivity

/-- A spelling of a whole number denotes its magnitude, with its sign unless it is zero. -/
theorem magnitude_eq_natAbs {n : Int} (denotes : s.value = n) :
    s.magnitude = n.natAbs ∧ n = if s.sign.isMinus then -(n.natAbs : Int) else n.natAbs := by
  have nonneg : 0 ≤ s.magnitude := magnitude_nonneg
  unfold value SignMark.apply at denotes
  split at denotes
  · next minus =>
    have below : n ≤ 0 := by
      have : (n : ℚ) ≤ 0 := denotes ▸ neg_nonpos.2 nonneg
      exact_mod_cast this
    have same : -(n.natAbs : Int) = n := by omega
    have magnitude : s.magnitude = ((-n : Int) : ℚ) := by rw [Int.cast_neg, ← denotes, neg_neg]
    refine ⟨?_, by rw [if_pos minus, same]⟩
    rw [magnitude, ← Int.cast_natCast, Int.cast_inj]
    omega
  · next other =>
    have above : 0 ≤ n := by
      have : (0 : ℚ) ≤ n := denotes ▸ nonneg
      exact_mod_cast this
    have same : (n.natAbs : Int) = n := Int.natAbs_of_nonneg above
    exact ⟨by rw [denotes, ← Int.cast_natCast, same], by rw [if_neg other, same]⟩

/-- Through a double, every spelling of a whole number up to `2^53` is read as that number. -/
theorem truncate_chars {n : Int} (denotes : s.value = n) (small : n.natAbs ≤ 2 ^ 53) :
    ((Scientific.read? s.chars).bind Scientific.toBinary64).map Binary64.truncate = some n := by
  obtain ⟨magnitude, signed⟩ := magnitude_eq_natAbs denotes
  rw [magnitude_eq] at magnitude
  rw [read?_chars, Option.bind_some, Scientific.truncate_toBinary64 small magnitude, ← signed]

end Spelling

end RecordStore.Number
