import VersionedStore.Error

/-!
# Decoding documents into records

A record type takes its fields from a document by name and passes over all other fields.  An
integer of either width is taken if it fits, but a double is no integer; and a text is a string,
or plain bytes that spell one.
-/

set_option autoImplicit false

namespace VersionedStore.Record

/-- An integer, if the value is one. -/
def integer? : Value → Option Int
  | .int32 i => some i.toInt
  | .int64 i => some i.toInt
  | _ => none

/-- A 64-bit integer. -/
def int64? (value : Value) : Option Int64 := (integer? value).map Int64.ofInt

/-- A 32-bit integer. -/
def int32? (value : Value) : Option Int32 :=
  match integer? value with
  | some i => if -0x80000000 ≤ i ∧ i < 0x80000000 then some (Int32.ofInt i) else none
  | none => none

/-- A text. -/
def text? : Value → Option String
  | .string s => some s
  | .binary subtype bytes =>
    if subtype = 0 then String.fromUTF8? (ByteArray.mk bytes.toArray) else none
  | _ => none

variable {α : Type}

/-- What a value of a field is decoded to. -/
def decoded (decode : Value → Option α) (field : String) (value : Value) : Result α :=
  match decode value with
  | some record => .ok record
  | none => .error (.serialization s!"field {field} has a wrong type")

/-- A field that has to be there. -/
def required (decode : Value → Option α) (document : Document) (field : String) : Result α :=
  match Document.get? document field with
  | some value => decoded decode field value
  | none => .error (.serialization s!"field {field} is missing")

/-- A field that has a default. -/
def optional (decode : Value → Option α) (default : α) (document : Document) (field : String) :
    Result α :=
  match Document.get? document field with
  | some value => decoded decode field value
  | none => .ok default

end VersionedStore.Record
