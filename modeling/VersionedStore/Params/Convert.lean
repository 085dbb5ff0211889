import VersionedStore.Calendar.Layout
import VersionedStore.Number.Decimal
import VersionedStore.Text.Blank
import VersionedStore.Value

/-!
# Converters

A converter makes a typed value of the text of a parameter, or says why it cannot.  Blanks
around the text do not count.
-/

set_option autoImplicit false

namespace VersionedStore.Convert

open Text

/-- Makes a value of a text, or gives the reason why not. -/
abbrev Converter := String → Except String Value

/-- A 64-bit integer. -/
def int : Converter := fun text =>
  ((Integer.readInt64 (trim text)).mapError Integer.Fault.message).map .int64

/-- A double. -/
def float : Converter := fun text =>
  ((Decimal.read (trim text)).mapError Decimal.Fault.message).map .double

/-- A truth value: `true`, `1` and `yes`, or `false`, `0` and `no`, in any letter case. -/
def boolean : Converter := fun text =>
  let word := String.ofList ((trimChars text.toList).map Char.toLower)
  if ["true", "1", "yes"].contains word then .ok (.boolean true)
  else if ["false", "0", "no"].contains word then .ok (.boolean false)
  else .error ("invalid boolean [" ++ word ++ "]")

/-- An object id. -/
def objectId : Converter := fun text =>
  ((ObjectId.read (trim text)).mapError ObjectId.Fault.message).map .objectId

/-- An instant in one of three layouts, which are tried in turn; the time is that of universal
time unless the text says otherwise, and midnight if the text has none. -/
def dateTime : Converter := fun text =>
  let text := trim text
  let instant (milliseconds : Int) : Value := .dateTime (Int64.ofInt milliseconds)
  match Calendar.readIn Calendar.internetLayout text with
  | .ok milliseconds => .ok (instant milliseconds)
  | .error _ =>
    match Calendar.readIn Calendar.plainLayout text with
    | .ok milliseconds => .ok (instant milliseconds)
    | .error _ =>
      match Calendar.readIn Calendar.dateLayout text with
      | .ok date => .ok (instant (Calendar.milliseconds date ⟨0, 0⟩ 0))
      | .error fault => .error ("invalid date [" ++ text ++ "]: " ++ fault.message)

/-- The pieces between commas, as strings without the blanks around them; a blank text has no
pieces. -/
def stringList : Converter := fun text =>
  if (trimChars text.toList).isEmpty then .ok (.array [])
  else .ok (.array ((pieces ',' text).map fun piece => .string (trim piece)))

end VersionedStore.Convert
