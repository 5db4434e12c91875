/-
RecordStore.Proofs.Calendar -- how dates and times of day are written

Every timestamp has a proper date and time of day (`proper_ofTimestamp`), so two
digits are enough for all of their fields but the year.  As long as the year has
four digits, a date is eight digits and nothing else, and a stamp is the date, a
`T`, the six digits of the time of day, and a `Z`.
-/
import RecordStore.Calendar
import RecordStore.Proofs.Number.Digits

namespace RecordStore.Calendar

set_option autoImplicit false

open RecordStore.Number

/-! ## Dates -/

/-- The fields but the year are in their ranges. -/
structure Proper (c : Calendar) : Prop where
  month : 1 ≤ c.month ∧ c.month ≤ 12
  day : 1 ≤ c.day ∧ c.day ≤ 31
  hour : c.hour < 24
  minute : c.minute < 60
  second : c.second < 60

/-- The day of the year, counted from March, for a day of an era. -/
theorem dayOfYear_bounds {day year dayOfYear : Int} (first : 0 ≤ day) (last : day < 146097)
    (years : year = (day - day / 1460 + day / 36524 - day / 146096) / 365)
    (within : dayOfYear = day - (365 * year + year / 4 - year / 100)) :
    0 ≤ dayOfYear ∧ dayOfYear ≤ 365 := by
  have centuries : year / 100 = 0 ∨ year / 100 = 1 ∨ year / 100 = 2 ∨ year / 100 = 3 := by omega
  have fourth : day / 146096 = 0 ∨ day / 146096 = 1 := by omega
  omega

theorem proper_ofDays (days : Int) {hour minute second : Int} (hours : 0 ≤ hour ∧ hour < 24)
    (minutes : 0 ≤ minute ∧ minute < 60) (seconds : 0 ≤ second ∧ second < 60) :
    (ofDays days hour minute second).Proper := by
  let era := Int.fdiv (days + 719468) 146097
  let day := days + 719468 - era * 146097
  let year := (day - day / 1460 + day / 36524 - day / 146096) / 365
  let dayOfYear := day - (365 * year + year / 4 - year / 100)
  let fromMarch := (5 * dayOfYear + 2) / 153
  have split : era = (days + 719468) / 146097 := Int.fdiv_eq_ediv_of_nonneg _ (by decide)
  have within : 0 ≤ day ∧ day < 146097 := by omega
  obtain ⟨first, last⟩ : 0 ≤ dayOfYear ∧ dayOfYear ≤ 365 :=
    dayOfYear_bounds within.1 within.2 rfl rfl
  have month : (ofDays days hour minute second).month =
      (if fromMarch < 10 then fromMarch + 3 else fromMarch - 9).toNat := rfl
  have day : (ofDays days hour minute second).day =
      (dayOfYear - (153 * fromMarch + 2) / 5 + 1).toNat := rfl
  constructor
  case month =>
    rw [month]
    split <;> omega
  case day =>
    rw [day]
    omega
  case hour =>
    show hour.toNat < 24
    omega
  case minute =>
    show minute.toNat < 60
    omega
  case second =>
    show second.toNat < 60
    omega

theorem proper_ofTimestamp (t : Timestamp) : (ofTimestamp t).Proper := by
  have seconds : Int.fmod t 86400 = t % 86400 := Int.fmod_eq_emod_of_nonneg _ (by decide)
  unfold ofTimestamp
  rw [seconds]
  exact proper_ofDays _ (by omega) (by omega) (by omega)

/-! ## Digits -/

/-- Numbers of not more digits than are wanted are written with exactly as many. -/
theorem length_padded {width n : Nat} (few : (digits n).length ≤ width) :
    (padded width n).length = width := by
  rw [padded, List.length_append, List.length_replicate, Nat.sub_add_cancel few]

theorem length_padded_two {n : Nat} (small : n < 100) : (padded 2 n).length = 2 :=
  length_padded ((Nat.length_toDigits_le_iff (by decide) (by decide)).2 small)

theorem isDigit_of_mem_padded {width n : Nat} {c : Char} (member : c ∈ padded width n) :
    isDigit c = true := by
  obtain zero | digit := List.mem_append.1 member
  · obtain rfl := List.eq_of_mem_replicate zero
    rfl
  · exact isDigit_of_mem_digits digit

/-- The year has four digits and no sign. -/
def FourDigitYear (c : Calendar) : Prop := 0 ≤ c.year ∧ c.year ≤ 9999

instance (c : Calendar) : Decidable c.FourDigitYear :=
  inferInstanceAs (Decidable (0 ≤ c.year ∧ c.year ≤ 9999))

section

variable {c : Calendar} (year : c.FourDigitYear)

include year

theorem yearChars_eq : yearChars c.year = padded 4 c.year.natAbs := by
  obtain ⟨positive, small⟩ := year
  unfold yearChars
  rw [if_neg (by omega), if_neg (by omega)]
  rfl

theorem isDigit_of_mem_dateText {d : Char} (member : d ∈ c.dateText.toList) :
    isDigit d = true := by
  rw [dateText, yearChars_eq year, String.toList_ofList, List.mem_append, List.mem_append]
    at member
  obtain (member | member) | member := member <;> exact isDigit_of_mem_padded member

/-- A date is eight digits. -/
theorem length_dateText (proper : c.Proper) : c.dateText.toList.length = 8 := by
  have months := proper.month
  have days := proper.day
  obtain ⟨positive, small⟩ := year
  have years : (padded 4 c.year.natAbs).length = 4 :=
    length_padded ((Nat.length_toDigits_le_iff (by decide) (by decide)).2 (by omega))
  rw [dateText, yearChars_eq ⟨positive, small⟩, String.toList_ofList, List.length_append,
    List.length_append, years, length_padded_two (by omega), length_padded_two (by omega)]

/-- The date of a stamp is its first eight characters. -/
theorem take_stampText (proper : c.Proper) :
    c.stampText.toList.take 8 = c.dateText.toList := by
  rw [stampText, String.append_assoc, String.append_assoc, String.toList_append]
  exact List.take_left' (length_dateText year proper)

end

/-- A stamp is digits, and a `T` and a `Z`. -/
theorem mem_stampText {c : Calendar} (year : c.FourDigitYear) {d : Char}
    (member : d ∈ c.stampText.toList) : isDigit d = true ∨ d = 'T' ∨ d = 'Z' := by
  simp only [stampText, String.toList_append, String.toList_ofList, List.mem_append] at member
  obtain ((date | t) | ((hour | minute) | second)) | z := member
  · exact .inl (isDigit_of_mem_dateText year date)
  · exact .inr (.inl (List.mem_singleton.1 t))
  · exact .inl (isDigit_of_mem_padded hour)
  · exact .inl (isDigit_of_mem_padded minute)
  · exact .inl (isDigit_of_mem_padded second)
  · exact .inr (.inr (List.mem_singleton.1 z))

end RecordStore.Calendar
