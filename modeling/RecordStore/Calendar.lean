/-
RecordStore.Calendar -- dates and times of day

A timestamp is split into whole days and the seconds of a day.  Years follow the
Gregorian rule in both directions.  They are counted from March, so that the day
that may be missing is the last one of a year; four hundred years make an era.
-/
import RecordStore.Record

namespace RecordStore

set_option autoImplicit false

open RecordStore.Number

/-- A date and a time of day, by coordinated time. -/
structure Calendar where
  year : Int
  month : Nat
  day : Nat
  hour : Nat
  minute : Nat
  second : Nat
  deriving DecidableEq

namespace Calendar

/-- The date so many days after the first day of 1970. -/
def ofDays (days hour minute second : Int) : Calendar :=
  let days := days + 719468
  let era := Int.fdiv days 146097
  let dayOfEra := days - era * 146097
  let yearOfEra := (dayOfEra - dayOfEra / 1460 + dayOfEra / 36524 - dayOfEra / 146096) / 365
  let dayOfYear := dayOfEra - (365 * yearOfEra + yearOfEra / 4 - yearOfEra / 100)
  let fromMarch := (5 * dayOfYear + 2) / 153
  let day := dayOfYear - (153 * fromMarch + 2) / 5 + 1
  let month := if fromMarch < 10 then fromMarch + 3 else fromMarch - 9
  let year := yearOfEra + era * 400 + (if month ≤ 2 then 1 else 0)
  ⟨year, month.toNat, day.toNat, hour.toNat, minute.toNat, second.toNat⟩

def ofTimestamp (t : Timestamp) : Calendar :=
  let seconds := Int.fmod t 86400
  ofDays (Int.fdiv t 86400) (seconds / 3600) (seconds / 60 % 60) (seconds % 60)

/-- At least `width` digits. -/
def padded (width n : Nat) : List Char :=
  let ds := digits n
  List.replicate (width - ds.length) '0' ++ ds

/-- Four digits; years beyond them, and those before the year zero, have a sign. -/
def yearChars (year : Int) : List Char :=
  let sign := if year < 0 then ['-'] else if 9999 < year then ['+'] else []
  sign ++ padded 4 year.natAbs

/-- The date without separators. -/
def dateText (c : Calendar) : String :=
  String.ofList (yearChars c.year ++ padded 2 c.month ++ padded 2 c.day)

/-- Date and time of day without separators. -/
def stampText (c : Calendar) : String :=
  c.dateText ++ "T" ++ String.ofList (padded 2 c.hour ++ padded 2 c.minute ++ padded 2 c.second)
    ++ "Z"

end Calendar

end RecordStore
