import VersionedStore.Proofs.Calendar.DayNumber
import VersionedStore.Proofs.Calendar.Reading

/-!
# Written moments

A moment is a date of a year with four digits and a time of day in whole seconds.  It is written
with zeros in front of all numbers: in the plain layout, or in the internet layout with an offset
from universal time.  Each layout reads what is written in it, and the internet layout, which is
tried first, refuses what is written without an offset.

* `Moment`, `Offset`: moments, and differences from universal time.
* `Moment.plainText`, `Moment.universalText`, `Moment.offsetText`, `Date.text`: their texts.
* `Moment.run_internetLayout`, `Moment.run_plainLayout`, `Moment.run_dateLayout`: what the layouts
  read in them.
* `Moment.plainText_lt_iff`: texts are ordered as the moments are.
-/

set_option autoImplicit false

namespace VersionedStore.Calendar

/-- A date of a year with four digits, and a time of day in whole seconds. -/
structure Moment where
  date : Date
  hour : ℕ
  minute : ℕ
  second : ℕ
  isProper : date.IsProper
  year_nonneg : 0 ≤ date.year
  year_lt : date.year < 10000
  hour_lt : hour < 24
  minute_lt : minute < 60
  second_lt : second < 60

/-- A difference from universal time of less than a day, in hours and minutes. -/
structure Offset where
  isAhead : Bool
  hours : ℕ
  minutes : ℕ
  hours_lt : hours < 24
  minutes_lt : minutes < 60

/-- An offset in seconds. -/
def Offset.seconds (offset : Offset) : ℤ :=
  if offset.isAhead then offset.hours * 3600 + offset.minutes * 60
  else -(offset.hours * 3600 + offset.minutes * 60)

/-- An offset as `+02:00`. -/
def Offset.text (offset : Offset) : String :=
  (if offset.isAhead then "+" else "-") ++ padded 2 offset.hours ++ ":" ++ padded 2 offset.minutes

/-- A date as `2024-03-01`. -/
def Date.text (date : Date) : String :=
  padded 4 date.year.toNat ++ "-" ++ padded 2 date.month ++ "-" ++ padded 2 date.day

namespace Moment

/-- The time of day as `12:30:00`. -/
def clockText (moment : Moment) : String :=
  padded 2 moment.hour ++ ":" ++ padded 2 moment.minute ++ ":" ++ padded 2 moment.second

/-- A moment as `2024-03-01 12:30:00`. -/
def plainText (moment : Moment) : String := moment.date.text ++ " " ++ moment.clockText

/-- A moment in universal time as `2024-03-01T12:30:00Z`. -/
def universalText (moment : Moment) : String :=
  moment.date.text ++ "T" ++ moment.clockText ++ "Z"

/-- A moment with an offset as `2024-03-01T12:30:00+02:00`. -/
def offsetText (moment : Moment) (offset : Offset) : String :=
  moment.date.text ++ "T" ++ moment.clockText ++ offset.text

/-- The start of the day of a moment. -/
def startOfDay (moment : Moment) : Moment :=
  { moment with
    hour := 0
    minute := 0
    second := 0
    hour_lt := by decide
    minute_lt := by decide
    second_lt := by decide }

/-- The seconds since the start of the day. -/
def secondOfDay (moment : Moment) : ℕ :=
  moment.hour * 3600 + moment.minute * 60 + moment.second

/-- A moment in milliseconds from the start of 1970, less an offset in seconds. -/
def instant (moment : Moment) (offset : ℤ) : ℤ :=
  milliseconds moment.date ⟨moment.secondOfDay, 0⟩ offset

end Moment

/-- The characters of a date, with what follows them. -/
def Date.chars (date : Date) (rest : List Char) : List Char :=
  fixedDigits 4 date.year.toNat ++
    '-' :: (fixedDigits 2 date.month ++ '-' :: (fixedDigits 2 date.day ++ rest))

/-- The characters of a moment around a separator, with what follows them. -/
def Moment.chars (moment : Moment) (separator : Char) (rest : List Char) : List Char :=
  moment.date.chars (separator :: (fixedDigits 2 moment.hour ++
    ':' :: (fixedDigits 2 moment.minute ++ ':' :: (fixedDigits 2 moment.second ++ rest))))

namespace Moment

variable (moment : Moment)

/-- The year of a moment has four digits. -/
theorem year_toNat_lt : moment.date.year.toNat < 10000 := by
  have hyear := moment.year_lt
  omega

/-- The day of a moment has two digits. -/
theorem day_le : moment.date.day ≤ 31 := by
  have hlength : monthLength moment.date.year moment.date.month ≤ 31 := by
    unfold monthLength
    split
    · split <;> decide
    · split <;> decide
  exact Nat.le_trans moment.isProper.day_le hlength

/-- The numbers of a moment but the year fit two digits. -/
theorem fits : moment.date.month < 10 ^ 2 ∧ moment.date.day < 10 ^ 2 ∧ moment.hour < 10 ^ 2 ∧
    moment.minute < 10 ^ 2 ∧ moment.second < 10 ^ 2 := by
  have hmonth := moment.isProper.month_le
  have hday := moment.day_le
  have hhour := moment.hour_lt
  have hminute := moment.minute_lt
  have hsecond := moment.second_lt
  omega

/-- The characters of a written date. -/
theorem toList_dateText : moment.date.text.toList = moment.date.chars [] := by
  obtain ⟨hmonth, hday, -, -, -⟩ := moment.fits
  unfold Date.text Date.chars
  rw [String.toList_append, String.toList_append, String.toList_append, String.toList_append,
    toList_padded (by decide) moment.year_toNat_lt, toList_padded (by decide) hmonth,
    toList_padded (by decide) hday]
  simp

/-- The characters of a written time of day. -/
theorem toList_clockText : moment.clockText.toList =
    fixedDigits 2 moment.hour ++
      ':' :: (fixedDigits 2 moment.minute ++ ':' :: fixedDigits 2 moment.second) := by
  obtain ⟨-, -, hhour, hminute, hsecond⟩ := moment.fits
  unfold clockText
  rw [String.toList_append, String.toList_append, String.toList_append, String.toList_append,
    toList_padded (by decide) hhour, toList_padded (by decide) hminute,
    toList_padded (by decide) hsecond]
  simp

/-- The characters of a moment in the plain layout. -/
theorem toList_plainText : moment.plainText.toList = moment.chars ' ' [] := by
  unfold plainText chars
  rw [String.toList_append, String.toList_append, toList_dateText, toList_clockText]
  simp [Date.chars]

/-- The characters of a moment in universal time in the internet layout. -/
theorem toList_universalText : moment.universalText.toList = moment.chars 'T' ['Z'] := by
  unfold universalText chars
  rw [String.toList_append, String.toList_append, String.toList_append, toList_dateText,
    toList_clockText]
  simp [Date.chars]

end Moment

/-- The sign of an offset. -/
def Offset.sign (offset : Offset) : Char := if offset.isAhead then '+' else '-'

/-- The characters of an offset. -/
def Offset.chars (offset : Offset) : List Char :=
  offset.sign :: (fixedDigits 2 offset.hours ++ ':' :: fixedDigits 2 offset.minutes)

/-- The hours and the minutes of an offset have two digits. -/
theorem Offset.fits (offset : Offset) : offset.hours < 10 ^ 2 ∧ offset.minutes < 10 ^ 2 := by
  have hhours := offset.hours_lt
  have hminutes := offset.minutes_lt
  omega

/-- The characters of a written offset. -/
theorem Offset.toList_text (offset : Offset) : offset.text.toList = offset.chars := by
  obtain ⟨hhours, hminutes⟩ := offset.fits
  unfold text chars sign
  rw [String.toList_append, String.toList_append, String.toList_append,
    toList_padded (by decide) hhours, toList_padded (by decide) hminutes]
  cases offset.isAhead <;> simp

/-- The characters of a moment with an offset in the internet layout. -/
theorem Moment.toList_offsetText (moment : Moment) (offset : Offset) :
    (moment.offsetText offset).toList = moment.chars 'T' offset.chars := by
  unfold offsetText chars
  rw [String.toList_append, String.toList_append, String.toList_append, toList_dateText,
    toList_clockText, Offset.toList_text]
  simp [Date.chars]

/-! ### Reading what is written -/

/-- The calendar has the date of a moment. -/
theorem Moment.run_checkedDate (moment : Moment) (rest : List Char) :
    (checkedDate moment.date.year.toNat moment.date.month moment.date.day).run rest =
      .ok (moment.date, rest) := by
  have hyear : (moment.date.year.toNat : ℤ) = moment.date.year :=
    Int.toNat_of_nonneg moment.year_nonneg
  obtain ⟨hmonth, hmonth', hday, hday'⟩ := moment.isProper
  have hfirst : firstYear ≤ moment.date.year := Int.le_trans (by decide) moment.year_nonneg
  have hlast : moment.date.year ≤ lastYear :=
    Int.le_trans (Int.le_of_lt moment.year_lt) (by decide)
  have hdate : date? moment.date.year moment.date.month moment.date.day = some moment.date :=
    if_pos ⟨hfirst, hlast, hmonth, hmonth', hday, hday'⟩
  unfold checkedDate
  rw [hyear, hdate]
  rfl

/-- The end of a text is where no character is left. -/
theorem run_finish_nil : finish.run [] = .ok ((), []) := rfl

/-- The time of day of a moment is its second of the day. -/
theorem Moment.clock_eq (moment : Moment) :
    clock moment.hour moment.minute moment.second = ⟨moment.secondOfDay, 0⟩ :=
  if_neg (Nat.ne_of_lt moment.second_lt)

/-- The parts of a written date are read back, whatever follows it. -/
theorem Moment.run_looseDate (moment : Moment) (rest : List Char) :
    looseDate.run (moment.date.chars rest) =
      .ok ((moment.date.year.toNat, moment.date.month, moment.date.day), rest) := by
  obtain ⟨hmonth, hday, -, -, -⟩ := moment.fits
  obtain ⟨hmonth', hmonth'', hday', -⟩ := moment.isProper
  unfold looseDate Date.chars
  rw [(reads_looseYear moment.year_toNat_lt).run_bind, run_mark_bind,
    (reads_looseNumber hmonth' hmonth'' hmonth).run_bind, run_mark_bind,
    (reads_looseNumber hday' moment.day_le hday).run_bind]
  rfl

/-- The plain layout reads a moment written in it, as one in universal time. -/
theorem Moment.run_plainLayout (moment : Moment) :
    plainLayout.run (moment.chars ' ' []) = .ok (moment.instant 0, []) := by
  obtain ⟨-, -, hhour, hminute, hsecond⟩ := moment.fits
  unfold plainLayout chars
  rw [run_bind_ok (moment.run_looseDate _)]
  simp only
  rw [run_bind_ok (run_blanks_space (by decide) _ _),
    (reads_looseNumber (Nat.zero_le _) (Nat.le_of_lt_succ moment.hour_lt) hhour).run_bind,
    run_mark_bind,
    (reads_looseNumber (Nat.zero_le _) (Nat.le_of_lt_succ moment.minute_lt) hminute).run_bind,
    run_mark_bind,
    (reads_looseNumber (Nat.zero_le _) (Nat.le_of_lt moment.second_lt) hsecond).run_bind,
    run_bind_ok run_finish_nil, run_bind_ok (moment.run_checkedDate []), moment.clock_eq]
  rfl

/-- The layout of dates reads a written date. -/
theorem Moment.run_dateLayout (moment : Moment) :
    dateLayout.run (moment.date.chars []) = .ok (moment.date, []) := by
  unfold dateLayout
  rw [run_bind_ok (moment.run_looseDate [])]
  simp only
  rw [run_bind_ok run_finish_nil]
  exact moment.run_checkedDate []

/-- The plain layout asks for a time of day. -/
theorem Moment.run_plainLayout_date (moment : Moment) :
    plainLayout.run (moment.date.chars []) = .error .tooShort := by
  unfold plainLayout
  rw [run_bind_ok (moment.run_looseDate [])]
  rfl

/-- The internet layout comes to the offset with what stands behind the seconds, if that is no
fraction. -/
theorem Moment.run_internetLayout (moment : Moment) {separator : Char}
    (hseparator : separator ∈ ['T', 't', ' ']) {rest : List Char}
    (hrest : ∀ digits, rest ≠ '.' :: digits) :
    internetLayout.run (moment.chars separator rest) =
      (do
        let seconds ← offset
        finish
        let date ← checkedDate moment.date.year.toNat moment.date.month moment.date.day
        pure (milliseconds date ⟨moment.secondOfDay, 0⟩ seconds) : Reading ℤ).run rest := by
  obtain ⟨hmonth, hday, hhour, hminute, hsecond⟩ := moment.fits
  obtain ⟨hmonth', hmonth'', hday', -⟩ := moment.isProper
  unfold internetLayout chars Date.chars
  rw [(reads_number (by decide) (by decide) moment.year_toNat_lt).run_bind, run_mark_bind,
    (reads_twoDigits hmonth' hmonth'' hmonth).run_bind, run_mark_bind,
    (reads_twoDigits hday' moment.day_le hday).run_bind, run_skip_bind hseparator,
    (reads_twoDigits (Nat.zero_le _) (Nat.le_of_lt_succ moment.hour_lt) hhour).run_bind,
    run_mark_bind,
    (reads_twoDigits (Nat.zero_le _) (Nat.le_of_lt_succ moment.minute_lt) hminute).run_bind,
    run_mark_bind,
    (reads_twoDigits (Nat.zero_le _) (Nat.le_of_lt moment.second_lt) hsecond).run_bind,
    run_get_bind, moment.clock_eq]
  split
  · -- A point behind the seconds would begin a fraction.
    rename_i digits
    exact absurd rfl (hrest digits)
  · rfl

/-- The offset behind the seconds of a moment is taken off. -/
theorem Moment.run_internetLayout_of_offset (moment : Moment) {separator : Char}
    (hseparator : separator ∈ ['T', 't', ' ']) {rest : List Char}
    (hrest : ∀ digits, rest ≠ '.' :: digits) {seconds : ℤ}
    (hoffset : offset.run rest = .ok (seconds, [])) :
    internetLayout.run (moment.chars separator rest) = .ok (moment.instant seconds, []) := by
  rw [moment.run_internetLayout hseparator hrest, run_bind_ok hoffset,
    run_bind_ok run_finish_nil, run_bind_ok (moment.run_checkedDate [])]
  rfl

/-- A written offset is read back in seconds. -/
theorem Offset.run_offset (offset : Offset) :
    Calendar.offset.run offset.chars = .ok (offset.seconds, []) := by
  obtain ⟨hhours, hminutes⟩ := offset.fits
  have hhours' := offset.hours_lt
  have hminutes' := offset.minutes_lt
  have hsign : offset.sign ∈ ['Z', 'z', '+', '-', minusSign] := by
    unfold sign
    cases offset.isAhead <;> decide
  have hother : ¬ (offset.sign = 'Z' ∨ offset.sign = 'z') := by
    unfold sign
    cases offset.isAhead <;> decide
  -- The hours are read without a bound of their own: it is the sum that stays below a day.
  have hbelow : ¬ (86400 : ℤ) ≤ offset.hours * 3600 + offset.minutes * 60 := by omega
  have hbehind := reads_twoDigits (Nat.zero_le _) (Nat.le_of_lt_succ hminutes') hminutes []
  rw [List.append_nil] at hbehind
  unfold Calendar.offset chars
  rw [run_bind_ok (run_oneOf_cons hsign _), if_neg hother,
    (reads_number (by decide) (by decide) hhours).run_bind, run_mark_bind, run_bind_ok hbehind]
  simp only [if_neg hbelow]
  unfold seconds sign
  cases offset.isAhead <;> rfl

/-- The internet layout asks for an offset. -/
theorem Moment.run_internetLayout_plain (moment : Moment) :
    internetLayout.run (moment.chars ' ' []) = .error .tooShort := by
  rw [moment.run_internetLayout (by decide) (by simp)]
  rfl

/-- The internet layout asks for a time of day. -/
theorem Moment.run_internetLayout_date (moment : Moment) :
    internetLayout.run (moment.date.chars []) = .error .tooShort := by
  obtain ⟨hmonth, hday, -, -, -⟩ := moment.fits
  obtain ⟨hmonth', hmonth'', hday', -⟩ := moment.isProper
  unfold internetLayout Date.chars
  rw [(reads_number (by decide) (by decide) moment.year_toNat_lt).run_bind, run_mark_bind,
    (reads_twoDigits hmonth' hmonth'' hmonth).run_bind, run_mark_bind,
    (reads_twoDigits hday' moment.day_le hday).run_bind]
  rfl

/-! ### Comparing what is written -/

namespace Moment

/-- A moment comes before another. -/
def Before (a b : Moment) : Prop :=
  a.date.Before b.date ∨ a.date = b.date ∧ a.secondOfDay < b.secondOfDay

/-- The seconds of a day are counted from zero to 86399. -/
theorem secondOfDay_lt (moment : Moment) : moment.secondOfDay < 86400 := by
  have hhour := moment.hour_lt
  have hminute := moment.minute_lt
  have hsecond := moment.second_lt
  unfold secondOfDay
  omega

/-- The seconds of a day are in the order of the hours, then of the minutes, then of the seconds. -/
theorem secondOfDay_lt_iff (a b : Moment) :
    a.secondOfDay < b.secondOfDay ↔
      a.hour < b.hour ∨
        a.hour = b.hour ∧ (a.minute < b.minute ∨ a.minute = b.minute ∧ a.second < b.second) := by
  have hminute := a.minute_lt
  have hminute' := b.minute_lt
  have hsecond := a.second_lt
  have hsecond' := b.second_lt
  unfold secondOfDay
  omega

/-- Texts are ordered as the moments are. -/
theorem plainText_lt_iff (a b : Moment) : a.plainText < b.plainText ↔ a.Before b := by
  obtain ⟨hmonth, hday, hhour, hminute, hsecond⟩ := a.fits
  obtain ⟨hmonth', hday', hhour', hminute', hsecond'⟩ := b.fits
  -- Number by number: the separators are the same, and nothing follows the seconds.
  rw [String.lt_iff_toList_lt, toList_plainText, toList_plainText]
  unfold chars Date.chars
  rw [fixedDigits_append_lt_iff a.year_toNat_lt b.year_toNat_lt, List.cons_lt_cons_self,
    fixedDigits_append_lt_iff hmonth hmonth', List.cons_lt_cons_self,
    fixedDigits_append_lt_iff hday hday', List.cons_lt_cons_self,
    fixedDigits_append_lt_iff hhour hhour', List.cons_lt_cons_self,
    fixedDigits_append_lt_iff hminute hminute', List.cons_lt_cons_self,
    fixedDigits_append_lt_iff hsecond hsecond']
  have hend : ¬ ([] : List Char) < [] := List.not_lt_nil []
  have hyear := a.year_nonneg
  have hyear' := b.year_nonneg
  have hclock := a.secondOfDay_lt_iff b
  unfold Before Date.Before
  rw [Date.eq_iff, hclock]
  simp only [hend, and_false, or_false]
  omega

/-- Instants are ordered as the moments are. -/
theorem instant_lt_iff (a b : Moment) : a.instant 0 < b.instant 0 ↔ a.Before b := by
  have hsecond := a.secondOfDay_lt
  have hsecond' := b.secondOfDay_lt
  have hlt := dayNumber_lt_iff a.isProper b.isProper
  have heq : dayNumber a.date = dayNumber b.date ↔ a.date = b.date :=
    ⟨dayNumber_inj a.isProper b.isProper, congrArg dayNumber⟩
  unfold Before instant milliseconds
  rw [← hlt, ← heq]
  simp only
  omega

end Moment

end VersionedStore.Calendar
