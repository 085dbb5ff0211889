import VersionedStore.Calendar
import Mathlib.Data.Int.Init
import Mathlib.Tactic.IntervalCases

/-!
# The order of day numbers

Day numbers follow one another as the dates do.  With years that begin in March, a day number is the
days of the years before, the days of the months before, and the day; a month ends before the next
one begins, and the last one of a year, which has the leap day, before the next year begins.

* `Date.IsProper`: dates that the calendar has.
* `Date.Before`: dates compared by year, month and day.
* `dayNumber_eq`: a day number by its parts.
* `daysBefore_add_monthLength_le`: a month ends before a later one begins.
* `dayNumber_lt_iff`, `dayNumber_inj`: day numbers are ordered as dates are.
-/

set_option autoImplicit false

namespace VersionedStore.Calendar

/-- The calendar has the date. -/
structure Date.IsProper (date : Date) : Prop where
  one_le_month : 1 ≤ date.month
  month_le : date.month ≤ 12
  one_le_day : 1 ≤ date.day
  day_le : date.day ≤ monthLength date.year date.month

/-- A date comes before another. -/
def Date.Before (a b : Date) : Prop :=
  a.year < b.year ∨
    a.year = b.year ∧ (a.month < b.month ∨ a.month = b.month ∧ a.day < b.day)

/-- The leap years are the multiples of four, of full centuries every fourth only. -/
theorem isLeap_iff (year : ℤ) :
    isLeap year = true ↔ year % 4 = 0 ∧ (year % 100 ≠ 0 ∨ year % 400 = 0) := by
  simp [isLeap]

/-- The year of a month, if years begin in March. -/
def marchYear (year : ℤ) (month : ℕ) : ℤ := if month ≤ 2 then year - 1 else year

/-- The months between March and a month. -/
def monthsFromMarch (month : ℕ) : ℤ := if month ≤ 2 then month + 9 else month - 3

/-- The days before the first of March of a year, from a year zero on. -/
def daysBeforeYear (year : ℤ) : ℤ := 365 * year + year / 4 - year / 100 + year / 400

/-- The days before the first of a month, from a year zero on. -/
def daysBefore (year : ℤ) (month : ℕ) : ℤ :=
  daysBeforeYear (marchYear year month) + (153 * monthsFromMarch month + 2) / 5

/-- A day number counts the days of the months before and of its own. -/
theorem dayNumber_eq (date : Date) :
    dayNumber date = daysBefore date.year date.month + date.day - 719469 := by
  unfold dayNumber daysBefore daysBeforeYear marchYear monthsFromMarch
  simp only [Int.fdiv_eq_ediv_of_nonneg _ (by decide : (0 : ℤ) ≤ 400)]
  generalize (if date.month ≤ 2 then date.year - 1 else date.year) = year
  generalize (if date.month ≤ 2 then (date.month : ℤ) + 9 else (date.month : ℤ) - 3) = month
  omega

/-- A year ends before a later one begins: it has a day more if the next one, with which its last
month begins, is a leap year. -/
theorem daysBeforeYear_add_le {year later : ℤ} (h : year < later) :
    daysBeforeYear year + (if isLeap (year + 1) then 366 else 365) ≤ daysBeforeYear later := by
  unfold daysBeforeYear
  by_cases hnext : later = year + 1
  · subst hnext
    split <;> rename_i hleap <;> rw [isLeap_iff] at hleap <;> omega
  · have hlater : year + 2 ≤ later := by omega
    split <;> omega

/-- The last month of a year, counted from March, ends with the year, and the others before. -/
theorem month_le_year (year : ℤ) {month : ℕ} (hmonth : 1 ≤ month) (hmonth' : month ≤ 12) :
    (153 * monthsFromMarch month + 2) / 5 + monthLength year month ≤
      if isLeap (marchYear year month + 1) then 366 else 365 := by
  by_cases hfebruary : month = 2
  · subst hfebruary
    simp only [monthsFromMarch, monthLength, marchYear, le_refl, if_true, Int.sub_add_cancel]
    split <;> decide
  · have hbefore : (153 * monthsFromMarch month + 2) / 5 + monthLength year month ≤ 365 := by
      interval_cases month <;> simp_all [monthsFromMarch, monthLength]
    split <;> omega

/-- The other months end before the next one begins. -/
theorem month_le_next (year : ℤ) {month : ℕ} (hmonth : 1 ≤ month) (hmonth' : month ≤ 12)
    (hfebruary : month ≠ 2) :
    (153 * monthsFromMarch month + 2) / 5 + monthLength year month ≤
      (153 * (monthsFromMarch month + 1) + 2) / 5 := by
  interval_cases month <;> simp_all [monthsFromMarch, monthLength]

/-- The month of a date ends before a later one begins. -/
theorem daysBefore_add_monthLength_le {a b : Date} (ha : a.IsProper) (hb : b.IsProper)
    (h : a.year < b.year ∨ a.year = b.year ∧ a.month < b.month) :
    daysBefore a.year a.month + monthLength a.year a.month ≤ daysBefore b.year b.month := by
  obtain ⟨hmonth, hmonth', -, -⟩ := ha
  obtain ⟨hlater, hlater', -, -⟩ := hb
  have hfromMarch : 0 ≤ monthsFromMarch b.month := by
    unfold monthsFromMarch
    split <;> omega
  -- Counted from March, the later month is in a later year or further on in the same year.
  have hcases : marchYear a.year a.month < marchYear b.year b.month ∨
      marchYear a.year a.month = marchYear b.year b.month ∧
        monthsFromMarch a.month + 1 ≤ monthsFromMarch b.month ∧ a.month ≠ 2 := by
    unfold marchYear monthsFromMarch
    split <;> split <;> omega
  unfold daysBefore
  rcases hcases with hyear | ⟨hyear, hfrom, hfebruary⟩
  · have hends := month_le_year a.year hmonth hmonth'
    have hnext := daysBeforeYear_add_le hyear
    split at hends <;> rename_i hleap
    · rw [if_pos hleap] at hnext
      omega
    · rw [if_neg hleap] at hnext
      omega
  · have hends := month_le_next a.year hmonth hmonth' hfebruary
    rw [hyear]
    omega

/-- Day numbers follow one another as dates do. -/
theorem dayNumber_lt_of_before {a b : Date} (ha : a.IsProper) (hb : b.IsProper)
    (h : a.Before b) : dayNumber a < dayNumber b := by
  have hday := ha.day_le
  have hday' := hb.one_le_day
  rw [dayNumber_eq, dayNumber_eq]
  rcases h with hyear | ⟨hyear, hmonth | ⟨hmonth, hdays⟩⟩
  · have hends := daysBefore_add_monthLength_le ha hb (.inl hyear)
    omega
  · have hends := daysBefore_add_monthLength_le ha hb (.inr ⟨hyear, hmonth⟩)
    omega
  · rw [hyear, hmonth]
    omega

/-- Dates with the same year, month and day are the same. -/
theorem Date.eq_iff (a b : Date) :
    a = b ↔ a.year = b.year ∧ a.month = b.month ∧ a.day = b.day := by
  cases a
  cases b
  rw [Date.mk.injEq]

/-- Of two different dates, one comes before the other. -/
theorem Date.before_trichotomy (a b : Date) : a.Before b ∨ a = b ∨ b.Before a := by
  unfold Before
  rw [eq_iff]
  omega

/-- Proper dates are numbered in their order. -/
theorem dayNumber_lt_iff {a b : Date} (ha : a.IsProper) (hb : b.IsProper) :
    dayNumber a < dayNumber b ↔ a.Before b := by
  refine ⟨fun hlt => ?_, dayNumber_lt_of_before ha hb⟩
  rcases a.before_trichotomy b with hbefore | rfl | hbehind
  · exact hbefore
  · exact absurd hlt (lt_irrefl _)
  · exact absurd hlt (lt_asymm (dayNumber_lt_of_before hb ha hbehind))

/-- Different proper dates have different numbers. -/
theorem dayNumber_inj {a b : Date} (ha : a.IsProper) (hb : b.IsProper)
    (h : dayNumber a = dayNumber b) : a = b := by
  rcases a.before_trichotomy b with hbefore | heq | hbehind
  · exact absurd h (ne_of_lt (dayNumber_lt_of_before ha hb hbefore))
  · exact heq
  · exact absurd h (ne_of_gt (dayNumber_lt_of_before hb ha hbehind))

end VersionedStore.Calendar
