import VersionedStore.Value
import VersionedStore.Calendar
import VersionedStore.Number.Shortest
import VersionedStore.Text.Blank
import VersionedStore.Text.Quoted

/-!
# Showing values

Values are shown in two ways.  `Value.display` is the form used in messages: strings stand
between quotes as they are, and documents and arrays are spaced.  `Document.compact` is one line
for a whole document, without spaces, and with quoted strings.
-/

set_option autoImplicit false

namespace VersionedStore

open Text

namespace Calendar

/-- A number with zeros in front up to a width. -/
def padded (width n : Nat) : String :=
  let digits := Integer.digits n
  zeros (width - digits.length) ++ digits
where
  /-- A row of zeros. -/
  zeros (count : Nat) : String := String.ofList (List.replicate count '0')

/-- A year of at least four digits, after a minus sign when it is negative and after a plus sign
when four digits are not enough. -/
def yearText (year : Int) : String :=
  (if year < 0 then "-" else if 9999 < year then "+" else "") ++ padded 4 year.natAbs

/-- The greatest magnitude of the years that are shown. -/
def mostShownYear : Nat := 999999

/-- The milliseconds of a second as a fraction without the zeros behind, but of one digit at
least. -/
def fractionText (milliseconds : Nat) : String :=
  let digits := (padded 3 milliseconds).toList
  let kept := (digits.reverse.dropWhile (· == '0')).reverse
  if kept.isEmpty then "0" else String.ofList kept

/-- An instant as date, time and offset: `2024-03-01 12:30:00.12 +00:00:00`.  Instants in years
of more than six digits are shown by their milliseconds. -/
def instantText (milliseconds : Int) : String :=
  let day := milliseconds.fdiv 86400000
  let ofDay := (milliseconds - day * 86400000).toNat
  let date := ofDayNumber day
  if mostShownYear < date.year.natAbs then Integer.write milliseconds
  else
    let seconds := ofDay / 1000
    yearText date.year ++ "-" ++ padded 2 date.month ++ "-" ++ padded 2 date.day ++ " " ++
      Integer.digits (seconds / 3600) ++ ":" ++ padded 2 (seconds / 60 % 60) ++ ":" ++
      padded 2 (seconds % 60) ++ "." ++ fractionText (ofDay % 1000) ++ " +00:00:00"

end Calendar

namespace Value

/-- The form of a value of which no other values are shown; strings stand between quotes as they
are, and code without its scope. -/
def displayScalar : Value → String
  | .null => "null"
  | .boolean b => if b then "true" else "false"
  | .int32 i => Integer.write i.toInt
  | .int64 i => Integer.write i.toInt
  | .double d => d.plain
  | .string s => "\"" ++ s ++ "\""
  | .dateTime milliseconds =>
    "DateTime(\"" ++ Calendar.instantText milliseconds.toInt ++ "\")"
  | .objectId id => "ObjectId(\"" ++ id.hex ++ "\")"
  | .timestamp time increment =>
    "Timestamp(" ++ Integer.digits time.toNat ++ ", " ++ Integer.digits increment.toNat ++ ")"
  | .binary subtype bytes =>
    "Binary(0x" ++ String.ofList (Nat.toDigits 16 subtype.toNat) ++ ", " ++
      String.ofList (base64 bytes) ++ ")"
  | .regularExpression pattern options => "/" ++ pattern ++ "/" ++ options
  | .code text | .codeWithScope text _ => text
  | .symbol text => "Symbol(\"" ++ text ++ "\")"
  | .decimal number => number.text
  | .pointer space id => "DbPointer(" ++ space ++ ", " ++ id.hex ++ ")"
  | .undefined => "undefined"
  | .minKey => "MinKey"
  | .maxKey => "MaxKey"
  | .array _ => "[]"
  | .document _ => "\x7b\x7d"

mutual

/-- The form of a value in messages. -/
def display : Value → String
  | .array items => "[" ++ join ", " (displayItems items) ++ "]"
  | .document fields =>
    if fields.isEmpty then "\x7b\x7d"
    else "\x7b " ++ join ", " (displayFields fields) ++ " \x7d"
  | value => displayScalar value

/-- The forms of the items of an array. -/
def displayItems : List Value → List String
  | [] => []
  | item :: rest => display item :: displayItems rest

/-- The forms of the fields of a document. -/
def displayFields : List (String × Value) → List String
  | [] => []
  | (name, value) :: rest => ("\"" ++ name ++ "\": " ++ display value) :: displayFields rest

end

mutual

/-- The form of a value on one line. -/
def compact : Value → String
  | .array items => "[" ++ join "," (compactItems items) ++ "]"
  | .document fields => "\x7b" ++ join "," (compactFields fields) ++ "\x7d"
  | .string s => quote s
  | value => displayScalar value

/-- The one-line forms of the items of an array. -/
def compactItems : List Value → List String
  | [] => []
  | item :: rest => compact item :: compactItems rest

/-- The one-line forms of the fields of a document. -/
def compactFields : List (String × Value) → List String
  | [] => []
  | (name, value) :: rest => (name ++ ":" ++ compact value) :: compactFields rest

end

end Value

/-- A document on one line. -/
def Document.compact (document : Document) : String := (Value.document document).compact

end VersionedStore
