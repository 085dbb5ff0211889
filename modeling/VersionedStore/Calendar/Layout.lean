import VersionedStore.Calendar
import VersionedStore.Text.Blank
import VersionedStore.Number.Integer

/-!
# Layouts of dates and times

Four layouts are read: the internet layout `2024-03-01T12:30:00.5+02:00` and, for instants in
JSON, a variant of it, the plain layout `2024-03-01 12:30:00` and the date alone, `2024-03-01`.
The internet layout and its variant have fixed widths; in the other two every number may be
preceded by blanks and may be shorter, and a year with a sign may be longer.

The internet layout carries a sixtieth second over into the next minute.  Its variant, the
instant layout, takes one only where a leap second can be, at the end of a month in universal
time, and puts the last nanosecond before the new month in its place.

Reading goes from left to right; the characters that are left are the state of a `Reading`.
-/

set_option autoImplicit false

namespace VersionedStore.Calendar

open VersionedStore.Text

/-- Why a text does not fit a layout. -/
inductive LayoutFault where
  | tooShort
  | tooLong
  | invalid
  | outOfRange
  deriving DecidableEq

/-- The wording of a fault. -/
def LayoutFault.message : LayoutFault → String
  | .tooShort => "premature end of input"
  | .tooLong => "trailing input"
  | .invalid => "input contains invalid characters"
  | .outOfRange => "input is out of range"

/-- A step of reading: it takes characters from those that are left, or finds a fault. -/
abbrev Reading (α : Type) := StateT (List Char) (Except LayoutFault) α

/-- The digits at the front of characters, at most `most` of them. -/
def leadingDigits (most : Nat) (chars : List Char) : List Char :=
  (chars.take most).takeWhile fun c => (Integer.digit? c).isSome

/-- The number that digits spell. -/
def spelled (digits : List Char) : Nat :=
  digits.foldl (fun n c => n * 10 + (Integer.digit? c).getD 0) 0

/-- Passes over blanks. -/
def blanks : Reading Unit := modify trimStart

/-- A number of at least `least` digits, and at most `most` if that is given.  It fits 64 bits.
What is left counts in bytes when it is too short for a number. -/
def number (least : Nat) (most : Option Nat) : Reading Nat := do
  let chars ← get
  let digits := leadingDigits (most.getD chars.length) chars
  if (String.ofList chars).utf8ByteSize < least then throw .tooShort
  if digits.length < least then throw .invalid
  if 0x8000000000000000 ≤ spelled digits then throw .outOfRange
  set (chars.drop digits.length)
  pure (spelled digits)

/-- A number of exactly two digits within bounds. -/
def twoDigits (low high : Nat) : Reading Nat := do
  let n ← number 2 (some 2)
  if low ≤ n ∧ n ≤ high then pure n else throw .outOfRange

/-- A number of one or two digits within bounds, after blanks. -/
def looseNumber (low high : Nat) : Reading Nat := do
  blanks
  let n ← number 1 (some 2)
  if low ≤ n ∧ n ≤ high then pure n else throw .outOfRange

/-- One of some characters. -/
def oneOf (expected : List Char) : Reading Char := do
  match ← get with
  | [] => throw .tooShort
  | c :: rest =>
    if expected.contains c then
      set rest
      pure c
    else throw .invalid

/-- A given character. -/
def mark (expected : Char) : Reading Unit := discard (oneOf [expected])

/-- The end of the text. -/
def finish : Reading Unit := do
  match ← get with
  | [] => pure ()
  | _ => throw .tooLong

/-- A year, after blanks: up to four digits, or any number of them after a sign. -/
def looseYear : Reading Int := do
  blanks
  let year : Int ←
    match ← get with
    | '-' :: digits => do
      set digits
      let n ← number 1 none
      pure (-(n : Int))
    | '+' :: digits => do
      set digits
      let n ← number 1 none
      pure (n : Int)
    | _ => do
      let n ← number 1 (some 4)
      pure (n : Int)
  if -0x80000000 ≤ year ∧ year < 0x80000000 then pure year else throw .outOfRange

/-- A year, a month and a day joined by hyphens; whether the month has that day is seen
later. -/
def looseDate : Reading (Int × Nat × Nat) := do
  let year ← looseYear
  mark '-'
  let month ← looseNumber 1 12
  mark '-'
  let day ← looseNumber 1 31
  pure (year, month, day)

/-- The date of a year, a month and a day. -/
def checkedDate (year : Int) (month day : Nat) : Reading Date :=
  match date? year month day with
  | some date => pure date
  | none => throw .outOfRange

/-- A time of day; a sixtieth second is the last one of its minute with a whole second as its
fraction. -/
def clock (hour minute second : Nat) : Time :=
  if second = 60 then ⟨hour * 3600 + minute * 60 + 59, 1000000000⟩
  else ⟨hour * 3600 + minute * 60 + second, 0⟩

/-- A date alone. -/
def dateLayout : Reading Date := do
  let (year, month, day) ← looseDate
  finish
  checkedDate year month day

/-- A date and a time of day, in milliseconds from the start of 1970. -/
def plainLayout : Reading Int := do
  let (year, month, day) ← looseDate
  blanks
  let hour ← looseNumber 0 23
  mark ':'
  let minute ← looseNumber 0 59
  mark ':'
  let second ← looseNumber 0 60
  finish
  let date ← checkedDate year month day
  pure (milliseconds date (clock hour minute second) 0)

/-- A fraction of a second in nanoseconds: the first nine digits count. -/
def fraction : Reading Nat := do
  let chars ← get
  let digits := leadingDigits chars.length chars
  if digits.isEmpty then throw .invalid
  set (chars.drop digits.length)
  let counted := digits.take 9
  pure (spelled counted * Nat.pow 10 (9 - counted.length))

/-- The minus sign of mathematics, which an offset may have for a hyphen. -/
def minusSign : Char := Char.ofNat 0x2212

/-- An offset from universal time in seconds: `Z`, or a sign with hours and minutes that stay
below a day. -/
def offset : Reading Int := do
  let sign ← oneOf ['Z', 'z', '+', '-', minusSign]
  if sign = 'Z' ∨ sign = 'z' then pure 0
  else
    let hour ← number 2 (some 2)
    mark ':'
    let minute ← twoDigits 0 59
    let seconds : Int := hour * 3600 + minute * 60
    if 86400 ≤ seconds then throw .outOfRange
    pure (if sign = '+' then seconds else -seconds)

/-- A date and a time in the internet layout, in milliseconds from the start of 1970. -/
def internetLayout : Reading Int := do
  let year ← number 4 (some 4)
  mark '-'
  let month ← twoDigits 1 12
  mark '-'
  let day ← twoDigits 1 31
  discard (oneOf ['T', 't', ' '])
  let hour ← twoDigits 0 23
  mark ':'
  let minute ← twoDigits 0 59
  mark ':'
  let second ← twoDigits 0 60
  let nanoseconds ←
    match ← get with
    | '.' :: rest => do
      set rest
      fraction
    | _ => pure 0
  let seconds ← offset
  finish
  let date ← checkedDate year month day
  let time := clock hour minute second
  pure (milliseconds date ⟨time.seconds, time.nanoseconds + nanoseconds⟩ seconds)

/-- An offset from universal time in seconds, the sign of which is one of ASCII. -/
def asciiOffset : Reading Int := do
  let sign ← oneOf ['Z', 'z', '+', '-']
  if sign = 'Z' ∨ sign = 'z' then pure 0
  else
    let hour ← twoDigits 0 23
    mark ':'
    let minute ← twoDigits 0 59
    let seconds : Int := hour * 3600 + minute * 60
    pure (if sign = '+' then seconds else -seconds)

/-- Any ASCII character. -/
def anyAscii : Reading Unit := do
  match ← get with
  | [] => throw .tooShort
  | c :: rest => if c.toNat < 128 then set rest else throw .invalid

/-- The seconds from the start of 1970 to a time on a date, less an offset. -/
def secondNumber (date : Date) (hour minute second : Nat) (offset : Int) : Int :=
  dayNumber date * 86400 + hour * 3600 + minute * 60 + second - offset

/-- Whether the second with a number is the last one of a month in universal time. -/
def endsMonth (second : Int) : Bool :=
  let next := second + 1
  next % 86400 == 0 && (ofDayNumber (next / 86400)).day == 1

/-- A date and a time in the instant layout, in milliseconds from the start of 1970.  Parts of a
millisecond are dropped towards the start of 1970. -/
def instantLayout : Reading Int := do
  let year ← number 4 (some 4)
  mark '-'
  let month ← twoDigits 1 12
  mark '-'
  let day ← twoDigits 1 31
  anyAscii
  let hour ← twoDigits 0 23
  mark ':'
  let minute ← twoDigits 0 59
  mark ':'
  let second ← twoDigits 0 60
  let nanoseconds ←
    match ← get with
    | '.' :: rest => do
      set rest
      fraction
    | _ => pure 0
  let offset ← asciiOffset
  finish
  let date ← checkedDate year month day
  let leap := second = 60
  let number := secondNumber date hour minute (if leap then 59 else second) offset
  if leap && !endsMonth number then throw .outOfRange
  pure ((number * 1000000000 + (if leap then 999999999 else nanoseconds)).tdiv 1000000)

/-- Reads a text in a layout. -/
def readIn {α : Type} (layout : Reading α) (text : String) : Except LayoutFault α :=
  layout.run' text.toList

end VersionedStore.Calendar
