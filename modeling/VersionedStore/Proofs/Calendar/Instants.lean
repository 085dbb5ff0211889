import VersionedStore.Params.Convert
import VersionedStore.Proofs.Calendar.Moment

/-!
# The instants of written moments

Three layouts are tried in turn when an instant is read, and all that is written of one moment comes
to the same instant: in the plain layout, in universal time, with an offset, and at the start of a
day as the date alone.  Later texts come to later instants.

* `Text.trim_of_append`: a text that neither begins nor ends with a blank.
* `Moment.toInt_instant`: the instants of moments fit 64 bits.
* `Convert.dateTime_plainText`, `Convert.dateTime_universalText`, `Convert.dateTime_offsetText`,
  `Convert.dateTime_dateText`: what the texts of a moment come to.
* `Convert.dateTime_layouts_agree`: that they agree, and keep the order.
-/

set_option autoImplicit false

namespace VersionedStore

/-! ### Texts without blanks around them -/

namespace Text

/-- There is nothing to cut off in front of a character that is no blank. -/
theorem trimStart_of_head {chars : List Char} (h : ∀ c ∈ chars.head?, isBlank c = false) :
    trimStart chars = chars := by
  cases chars with
  | nil => rfl
  | cons c rest => exact List.dropWhile_cons_of_neg (by simpa using h c rfl)

/-- A text that neither begins nor ends with a blank is left as it is. -/
theorem trim_of_append {text : String} {front behind : List Char}
    (htext : text.toList = front ++ behind) (hfront : ∀ c ∈ text.toList.head?, isBlank c = false)
    (hne : behind ≠ []) (hbehind : ∀ c ∈ behind, isBlank c = false) : trim text = text := by
  have hlast : ∀ c ∈ text.toList.reverse.head?, isBlank c = false := by
    intro c hc
    rw [htext, List.reverse_append, List.head?_append_of_ne_nil _ (by simpa using hne)] at hc
    exact hbehind c (List.mem_reverse.1 (List.mem_of_head? hc))
  unfold trim trimChars
  rw [trimStart_of_head hfront, trimStart_of_head hlast, List.reverse_reverse, String.ofList_toList]

end Text

namespace Calendar

open Text

/-- No digit of a written number is a blank. -/
theorem isBlank_of_mem_fixedDigits {width n : ℕ} {c : Char} (h : c ∈ fixedDigits width n) :
    isBlank c = false :=
  isBlank_of_isSome_digit? (isSome_digit?_of_mem h)

/-- A number of a positive width has some digit. -/
theorem fixedDigits_ne_nil {width : ℕ} (hwidth : 0 < width) (n : ℕ) : fixedDigits width n ≠ [] := by
  rw [← List.length_pos_iff, length_fixedDigits]
  exact hwidth

/-- A written date begins with a digit and not with a blank. -/
theorem Date.isBlank_head_chars (date : Date) (rest : List Char) :
    ∀ c ∈ (date.chars rest).head?, isBlank c = false := by
  unfold chars
  obtain ⟨c, chars, hchars, hdigit⟩ := exists_fixedDigits_append (by decide : 0 < 4)
    date.year.toNat ('-' :: (fixedDigits 2 date.month ++ '-' :: (fixedDigits 2 date.day ++ rest)))
  rw [hchars, List.head?_cons]
  rintro _ ⟨rfl⟩
  exact isBlank_of_isSome_digit? hdigit

/-- A written offset holds no blank. -/
theorem Offset.isBlank_of_mem_chars (offset : Offset) {c : Char} (h : c ∈ offset.chars) :
    isBlank c = false := by
  unfold chars at h
  rw [List.mem_cons, List.mem_append, List.mem_cons] at h
  rcases h with rfl | hhours | rfl | hminutes
  · unfold sign
    cases offset.isAhead <;> decide
  · exact isBlank_of_mem_fixedDigits hhours
  · decide
  · exact isBlank_of_mem_fixedDigits hminutes

namespace Moment

variable (moment : Moment)

/-- There are no blanks around a moment, if none follow it. -/
theorem trim_text {text : String} {separator : Char} {rest : List Char}
    (htext : text.toList = moment.chars separator rest) (hrest : ∀ c ∈ rest, isBlank c = false) :
    trim text = text := by
  -- What stands at the end is the seconds with what follows them, of which nothing need be there.
  have hsplit : text.toList =
      moment.date.chars (separator :: (fixedDigits 2 moment.hour ++
        ':' :: (fixedDigits 2 moment.minute ++ [':']))) ++
      (fixedDigits 2 moment.second ++ rest) := by
    rw [htext]
    simp [chars, Date.chars]
  have hhead : ∀ c ∈ text.toList.head?, isBlank c = false := by
    rw [htext]
    exact moment.date.isBlank_head_chars _
  refine trim_of_append hsplit hhead ?_ fun c hc => ?_
  · exact List.append_ne_nil_of_left_ne_nil (fixedDigits_ne_nil (by decide) _) _
  · rcases List.mem_append.1 hc with hsecond | hafter
    · exact isBlank_of_mem_fixedDigits hsecond
    · exact hrest c hafter

/-- There are no blanks around a written date. -/
theorem trim_dateText : trim moment.date.text = moment.date.text := by
  have hsplit : moment.date.text.toList =
      (fixedDigits 4 moment.date.year.toNat ++ '-' :: (fixedDigits 2 moment.date.month ++ ['-'])) ++
        fixedDigits 2 moment.date.day := by
    rw [toList_dateText]
    simp [Date.chars]
  have hhead : ∀ c ∈ moment.date.text.toList.head?, isBlank c = false := by
    rw [toList_dateText]
    exact moment.date.isBlank_head_chars []
  exact trim_of_append hsplit hhead (fixedDigits_ne_nil (by decide) _)
    fun c hc => isBlank_of_mem_fixedDigits hc

/-! ### Instants in 64 bits -/

/-- The dates of years with four digits lie within three million days of the start of 1970. -/
theorem dayNumber_bounds : -1000000 ≤ dayNumber moment.date ∧ dayNumber moment.date ≤ 3000000 := by
  obtain ⟨hmonth, hmonth', hday, -⟩ := moment.isProper
  have hday' := moment.day_le
  have hyear := moment.year_nonneg
  have hyear' := moment.year_lt
  rw [dayNumber_eq]
  unfold daysBefore daysBeforeYear marchYear monthsFromMarch
  split <;> omega

/-- The instant of a moment is its day and its second of the day, less the offset, in
milliseconds. -/
theorem instant_eq (offset : ℤ) :
    moment.instant offset = (dayNumber moment.date * 86400 + moment.secondOfDay - offset) * 1000 := by
  unfold instant milliseconds
  simp

/-- The start of the day of a moment is the instant of its date at midnight. -/
theorem instant_startOfDay (offset : ℤ) :
    moment.startOfDay.instant offset = milliseconds moment.date ⟨0, 0⟩ offset := by
  have hsecond : moment.startOfDay.secondOfDay = 0 := by simp [startOfDay, secondOfDay]
  unfold instant
  rw [hsecond]
  rfl

/-- An offset of less than a day keeps an instant in 64 bits. -/
theorem toInt_instant {offset : ℤ} (hlow : -86400 < offset) (hhigh : offset < 86400) :
    (Int64.ofInt (moment.instant offset)).toInt = moment.instant offset := by
  obtain ⟨hday, hday'⟩ := moment.dayNumber_bounds
  have hsecond := moment.secondOfDay_lt
  rw [instant_eq]
  exact Int64.toInt_ofInt_of_le (by omega) (by omega)

/-- The instant of a moment in universal time fits a word of 64 bits. -/
theorem toInt_instant_zero : (Int64.ofInt (moment.instant 0)).toInt = moment.instant 0 :=
  moment.toInt_instant (by decide) (by decide)

/-- An offset moves the instant of a moment back by that many seconds. -/
theorem instant_sub (offset : ℤ) : moment.instant offset = moment.instant 0 - offset * 1000 := by
  rw [instant_eq, instant_eq]
  omega

end Moment

/-- No fraction of a second begins as an offset does. -/
theorem Offset.sign_ne_point (offset : Offset) : offset.sign ≠ '.' := by
  unfold sign
  cases offset.isAhead <;> decide

/-- An offset is less than a day. -/
theorem Offset.seconds_bounds (offset : Offset) :
    -86400 < offset.seconds ∧ offset.seconds < 86400 := by
  have hhours := offset.hours_lt
  have hminutes := offset.minutes_lt
  unfold seconds
  split <;> omega

/-! ### Texts in a layout -/

variable {α : Type} {layout : Reading α} {text : String}

/-- What a layout makes of the front of a text is what reading the text in it gives. -/
theorem readIn_of_ok {value : α} {rest : List Char} (h : layout.run text.toList = .ok (value, rest)) :
    readIn layout text = .ok value := by
  unfold readIn
  rw [StateT.run'_eq, h]
  rfl

/-- Where a layout fails, so does reading in it, with the same fault. -/
theorem readIn_of_error {fault : LayoutFault} (h : layout.run text.toList = .error fault) :
    readIn layout text = .error fault := by
  unfold readIn
  rw [StateT.run'_eq, h]
  rfl

end Calendar

/-! ### The converter -/

namespace Convert

open Calendar Text

variable {text : String} {instant : ℤ} {fault : LayoutFault}

/-- What the internet layout reads is taken. -/
theorem dateTime_of_internetLayout (htrim : trim text = text)
    (h : internetLayout.run text.toList = .ok (instant, [])) :
    dateTime text = .ok (.dateTime (Int64.ofInt instant)) := by
  unfold dateTime
  simp only [htrim, readIn_of_ok h]

/-- What the internet layout refuses and the plain layout reads is taken. -/
theorem dateTime_of_plainLayout (htrim : trim text = text)
    (hinternet : internetLayout.run text.toList = .error fault)
    (h : plainLayout.run text.toList = .ok (instant, [])) :
    dateTime text = .ok (.dateTime (Int64.ofInt instant)) := by
  unfold dateTime
  simp only [htrim, readIn_of_error hinternet, readIn_of_ok h]

/-- What only the date layout reads is the start of its day. -/
theorem dateTime_of_dateLayout {fault' : LayoutFault} {date : Date} (htrim : trim text = text)
    (hinternet : internetLayout.run text.toList = .error fault)
    (hplain : plainLayout.run text.toList = .error fault')
    (h : dateLayout.run text.toList = .ok (date, [])) :
    dateTime text = .ok (.dateTime (Int64.ofInt (milliseconds date ⟨0, 0⟩ 0))) := by
  unfold dateTime
  simp only [htrim, readIn_of_error hinternet, readIn_of_error hplain, readIn_of_ok h]

variable (moment : Moment)

/-- A moment in the plain layout converts to its instant in universal time. -/
theorem dateTime_plainText :
    dateTime moment.plainText = .ok (.dateTime (Int64.ofInt (moment.instant 0))) := by
  have htext := moment.toList_plainText
  have htrim : trim moment.plainText = moment.plainText := moment.trim_text htext (by simp)
  have hinternet := moment.run_internetLayout_plain
  have hplain := moment.run_plainLayout
  rw [← htext] at hinternet hplain
  exact dateTime_of_plainLayout htrim hinternet hplain

/-- A moment in universal time in the internet layout converts to its instant. -/
theorem dateTime_universalText :
    dateTime moment.universalText = .ok (.dateTime (Int64.ofInt (moment.instant 0))) := by
  have htext := moment.toList_universalText
  have hblank : ∀ c ∈ ['Z'], isBlank c = false := by
    intro c hc
    rw [List.mem_singleton.1 hc]
    rfl
  have hinternet : internetLayout.run (moment.chars 'T' ['Z']) = .ok (moment.instant 0, []) :=
    moment.run_internetLayout_of_offset (by decide) (by simp) rfl
  rw [← htext] at hinternet
  exact dateTime_of_internetLayout (moment.trim_text htext hblank) hinternet

/-- A moment with an offset in the internet layout converts to its instant less the offset. -/
theorem dateTime_offsetText (offset : Offset) :
    dateTime (moment.offsetText offset) =
      .ok (.dateTime (Int64.ofInt (moment.instant offset.seconds))) := by
  have htext := moment.toList_offsetText offset
  have hfraction : ∀ digits, offset.chars ≠ '.' :: digits := by
    intro digits heq
    exact offset.sign_ne_point (List.cons.inj heq).1
  have htrim : trim (moment.offsetText offset) = moment.offsetText offset :=
    moment.trim_text htext fun c hc => offset.isBlank_of_mem_chars hc
  have hinternet : internetLayout.run (moment.chars 'T' offset.chars) =
      .ok (moment.instant offset.seconds, []) :=
    moment.run_internetLayout_of_offset (by decide) hfraction offset.run_offset
  rw [← htext] at hinternet
  exact dateTime_of_internetLayout htrim hinternet

/-- A date alone is the start of its day. -/
theorem dateTime_dateText :
    dateTime moment.date.text = .ok (.dateTime (Int64.ofInt (moment.startOfDay.instant 0))) := by
  have htext := moment.toList_dateText
  have hinternet := moment.run_internetLayout_date
  have hplain := moment.run_plainLayout_date
  have hdate := moment.run_dateLayout
  rw [← htext] at hinternet hplain hdate
  rw [moment.instant_startOfDay]
  exact dateTime_of_dateLayout moment.trim_dateText hinternet hplain hdate

/-- All that is written of a moment comes to the same instant, from which an offset is taken off,
and the instants are in the order of the texts. -/
theorem dateTime_layouts_agree :
    ∃ instant : Int64,
      dateTime moment.plainText = .ok (.dateTime instant) ∧
      dateTime moment.universalText = .ok (.dateTime instant) ∧
      dateTime moment.date.text = dateTime moment.startOfDay.plainText ∧
      (∀ offset : Offset, ∃ shifted : Int64,
        dateTime (moment.offsetText offset) = .ok (.dateTime shifted) ∧
        shifted.toInt = instant.toInt - offset.seconds * 1000) ∧
      ∀ other : Moment, ∃ instant' : Int64,
        dateTime other.plainText = .ok (.dateTime instant') ∧
        (moment.plainText < other.plainText ↔ instant.toInt < instant'.toInt) := by
  refine ⟨Int64.ofInt (moment.instant 0), dateTime_plainText moment,
    dateTime_universalText moment, ?_, fun offset => ?_, fun other => ?_⟩
  · -- The date layout puts midnight where no time of day is written.
    exact (dateTime_dateText moment).trans (dateTime_plainText moment.startOfDay).symm
  · obtain ⟨hlow, hhigh⟩ := offset.seconds_bounds
    refine ⟨Int64.ofInt (moment.instant offset.seconds), dateTime_offsetText moment offset, ?_⟩
    rw [moment.toInt_instant hlow hhigh, moment.toInt_instant_zero]
    exact moment.instant_sub offset.seconds
  · refine ⟨Int64.ofInt (other.instant 0), dateTime_plainText other, ?_⟩
    rw [moment.toInt_instant_zero, other.toInt_instant_zero, Moment.instant_lt_iff]
    exact Moment.plainText_lt_iff moment other

/-- The last second of a leap day, two hours ahead of universal time. -/
example : ∃ (moment : Moment) (offset : Offset),
    moment.offsetText offset = "2024-02-29T23:59:59+02:00" ∧
      dateTime (moment.offsetText offset) = .ok (.dateTime 1709243999000) := by
  let moment : Moment :=
    ⟨⟨2024, 2, 29⟩, 23, 59, 59, ⟨by decide, by decide, by decide, by decide⟩, by decide, by decide,
      by decide, by decide, by decide⟩
  let offset : Offset := ⟨true, 2, 0, by decide, by decide⟩
  have htext : moment.offsetText offset = "2024-02-29T23:59:59+02:00" := by decide
  exact ⟨moment, offset, htext, by rw [htext]; rfl⟩

end Convert

end VersionedStore
