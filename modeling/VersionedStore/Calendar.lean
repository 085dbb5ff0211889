/-!
# Calendar dates

The Gregorian calendar, carried on in both directions, counts days from the first of January
1970.  `Calendar.dayNumber` and `Calendar.ofDayNumber` go back and forth between the two; years
are taken to begin in March, so that the leap day is the last of its year.
-/

set_option autoImplicit false

namespace VersionedStore.Calendar

/-- Whether a year has a leap day. -/
def isLeap (year : Int) : Bool :=
  year % 4 == 0 && (year % 100 != 0 || year % 400 == 0)

/-- The number of days in a month, counted from one. -/
def monthLength (year : Int) (month : Nat) : Nat :=
  if month = 2 then (if isLeap year then 29 else 28)
  else if month = 4 ∨ month = 6 ∨ month = 9 ∨ month = 11 then 30
  else 31

/-- A date: the month and the day count from one. -/
structure Date where
  year : Int
  month : Nat
  day : Nat
  deriving DecidableEq

/-- The number of days from the first of January 1970 to a date. -/
def dayNumber (date : Date) : Int :=
  let year := if date.month ≤ 2 then date.year - 1 else date.year
  let monthFromMarch : Int := if date.month ≤ 2 then date.month + 9 else date.month - 3
  let era := year.fdiv 400
  let yearOfEra := year - era * 400
  let dayOfYear := (153 * monthFromMarch + 2) / 5 + date.day - 1
  let dayOfEra := yearOfEra * 365 + yearOfEra / 4 - yearOfEra / 100 + dayOfYear
  era * 146097 + dayOfEra - 719468

/-- The date of a day number. -/
def ofDayNumber (day : Int) : Date :=
  let shifted := day + 719468
  let era := shifted.fdiv 146097
  let dayOfEra := shifted - era * 146097
  let yearOfEra := (dayOfEra - dayOfEra / 1460 + dayOfEra / 36524 - dayOfEra / 146096) / 365
  let dayOfYear := dayOfEra - (365 * yearOfEra + yearOfEra / 4 - yearOfEra / 100)
  let monthFromMarch := (5 * dayOfYear + 2) / 153
  let day := dayOfYear - (153 * monthFromMarch + 2) / 5 + 1
  let month := if monthFromMarch < 10 then monthFromMarch + 3 else monthFromMarch - 9
  let year := yearOfEra + era * 400 + (if month ≤ 2 then 1 else 0)
  ⟨year, month.toNat, day.toNat⟩

/-- The years that dates are read in. -/
def firstYear : Int := -262143

/-- The last of the years that dates are read in. -/
def lastYear : Int := 262142

/-- The date of a year, a month and a day, if the month has that day and the year is one that
dates are read in. -/
def date? (year : Int) (month day : Nat) : Option Date :=
  if firstYear ≤ year ∧ year ≤ lastYear ∧ 1 ≤ month ∧ month ≤ 12 ∧ 1 ≤ day ∧
      day ≤ monthLength year month then
    some ⟨year, month, day⟩
  else none

/-- A time of day in whole seconds and a fraction of a second in nanoseconds; a leap second has
a fraction of a second or more. -/
structure Time where
  seconds : Nat
  nanoseconds : Nat
  deriving DecidableEq

/-- The milliseconds from the start of 1970 to a time on a date, less an offset in seconds. -/
def milliseconds (date : Date) (time : Time) (offset : Int) : Int :=
  (dayNumber date * 86400 + time.seconds - offset) * 1000 + time.nanoseconds / 1000000

end VersionedStore.Calendar
