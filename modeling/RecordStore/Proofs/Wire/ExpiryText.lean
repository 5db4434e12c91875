/-
RecordStore.Proofs.Wire.ExpiryText -- expiry numbers in any spelling

A timestamp is read on one of two paths: as a whole number, or, where that fails,
through a double (`parseTimestamp?_eq`).  A store may spell the number that it was
given in another way, and the spelling decides the path.  Both paths take a spelling
for what it denotes, the second one up to `2^53` (`throughDouble?_chars`), so the
spelling does not move the expiry of a record.
-/
import RecordStore.Proofs.Number.Spelling
import RecordStore.Proofs.Wire.RecordForm

namespace RecordStore.Wire

set_option autoImplicit false

open RecordStore.Number

/-- The second path: a double, cut to whole seconds. -/
def throughDouble? (cs : List Char) : Option Timestamp :=
  ((Scientific.read? cs).bind Scientific.toBinary64).map fun x => clampTimestamp x.truncate

theorem parseTimestamp?_eq (text : String) : parseTimestamp? text =
    (readInt? maxInt64 text.toList).or (throughDouble? text.toList) := by
  unfold parseTimestamp? throughDouble?
  dsimp only
  split
  · next read => rw [read, Option.some_or]
  · next refused =>
    rw [refused, Option.none_or]
    cases Scientific.read? text.toList with
    | none => rfl
    | some number =>
      simp only [Option.bind_some, Option.bind_eq_bind]
      cases number.toBinary64 <;> rfl

theorem clampTimestamp_eq {i : Int} (ge : -0x8000_0000_0000_0000 ≤ i) (le : i ≤ maxTimestamp) :
    clampTimestamp i = i := by
  rw [clampTimestamp, Int.min_eq_left le, Int.max_eq_right ge]

/-- The second path takes every spelling of a whole number up to `2^53` for that number. -/
theorem throughDouble?_chars {s : Spelling} {n : Int} (denotes : s.value = n)
    (small : n.natAbs ≤ 2 ^ 53) : throughDouble? s.chars = some n := by
  obtain ⟨x, double, whole⟩ := Option.map_eq_some_iff.1 (s.truncate_chars denotes small)
  have fits : clampTimestamp n = n :=
    clampTimestamp_eq (by omega) (by unfold maxTimestamp maxInt64; omega)
  rw [throughDouble?, double, Option.map_some, whole, fits]

/-- The text stands for the timestamp, and a record with it as its expiry number has that expiry if
it is positive and none otherwise. -/
structure StandsFor (text : String) (n : Timestamp) : Prop where
  parsed : parseTimestamp? text = some n
  record : ∀ (item : Item) (key value : String), item.get? keyAttribute = some (.string key) →
    item.get? valueAttribute = some (.string value) →
    item.get? expiryAttribute = some (.number text) →
    recordOfItem item = .ok (.ofText key value (if 0 < n then some n else none))

theorem standsFor_of_parsed {text : String} {n : Timestamp}
    (parsed : parseTimestamp? text = some n) : StandsFor text n where
  parsed := parsed
  record item key value named valued timed := by
    have expiry : (some n).filter (0 < ·) = if 0 < n then some n else none := by
      simp only [Option.filter_some, decide_eq_true_eq]
    rw [← expiry]
    exact recordOfItem_eq_ok.2 ⟨named, ⟨value, rfl, valued⟩, .number timed parsed⟩

/-- **Expiry numbers survive any spelling.**  Up to `2^53` every spelling of a whole number stands
for that number, and both paths take it for the same where both apply.  A spelling of digits only
stands for what it denotes in the whole range of a timestamp. -/
theorem expiry_of_spelling (s : Spelling) {n : Int} (denotes : s.value = n) :
    (n.natAbs ≤ 2 ^ 53 → StandsFor s.text n ∧ throughDouble? s.chars = some n ∧
      ∀ i, readInt? maxInt64 s.chars = some i → i = n) ∧
    (s.Plain → -(maxInt64 : Int) - 1 ≤ n → n ≤ maxInt64 →
      StandsFor s.text n ∧ readInt? maxInt64 s.chars = some n) := by
  have chars : s.text.toList = s.chars := String.toList_ofList
  constructor
  · intro small
    have double := throughDouble?_chars denotes small
    have agree : ∀ i, readInt? maxInt64 s.chars = some i → i = n := by
      intro i read
      have same := (Spelling.readInt?_denotes read).2.symm.trans denotes
      exact_mod_cast same
    refine ⟨standsFor_of_parsed ?_, double, agree⟩
    rw [parseTimestamp?_eq, chars, double]
    cases read : readInt? maxInt64 s.chars with
    | none => rfl
    | some i => rw [agree i read, Option.some_or]
  · intro plain ge le
    have read := plain.readInt?_eq denotes ge le
    refine ⟨standsFor_of_parsed ?_, read⟩
    rw [parseTimestamp?_eq, chars, read, Option.some_or]

/-- Forty-two with an exponent, and the least timestamp with its sign. -/
theorem expiry_of_spelling_exponent :
    let shifted : Spelling :=
      { sign := .absent, whole := ['4', '2', '0'], fraction? := none,
        exponent? := some ⟨'e', .minus, ['1'], .inl rfl, by decide, by decide⟩,
        whole_digits := by decide, fraction_digits := nofun, some_ := by decide }
    let least : Spelling :=
      { sign := .minus, whole := digits (2 ^ 63), fraction? := none, exponent? := none,
        whole_digits := fun _ => isDigit_of_mem_digits, fraction_digits := nofun,
        some_ := by decide }
    shifted.text = "420e-1" ∧ StandsFor "420e-1" 42 ∧ throughDouble? shifted.chars = some 42 ∧
      least.text = "-9223372036854775808" ∧
      StandsFor "-9223372036854775808" (-9223372036854775808) := by
  intro shifted least
  have whole : ofDigits 0 ['4', '2', '0'] = 420 := by decide
  have one : ofDigits 0 ['1'] = 1 := by decide
  have denotes : shifted.value = (42 : Int) := by
    norm_num [shifted, Spelling.value, Spelling.magnitude, Spelling.fraction, Spelling.exponent,
      ExponentPart.value, SignMark.apply, SignMark.isMinus, ofDigits_nil, whole, one]
  have plain : least.Plain := ⟨rfl, rfl⟩
  have denotesLeast : least.value = (-9223372036854775808 : Int) := by
    rw [plain.value_eq, ofDigits_digits]
    rfl
  have text : shifted.text = "420e-1" := by decide
  have leastText : least.text = "-9223372036854775808" := by decide
  obtain ⟨stands, double, -⟩ := (expiry_of_spelling shifted denotes).1 (by decide)
  obtain ⟨standsLeast, -⟩ :=
    (expiry_of_spelling least denotesLeast).2 plain (by decide) (by decide)
  exact ⟨text, text ▸ stands, double, leastText, leastText ▸ standsLeast⟩

end RecordStore.Wire
