import VersionedStore.Json.Extended
import VersionedStore.Number.WideDecimal
import VersionedStore.Record

/-!
# Payloads

A choice may be given as a document of one field, whose name is the choice.  The value of that
field, the payload, is read by the rules of values in JSON and then dropped: a document whose
field name says a type must hold what the type asks for.  As the payload has been read from
bytes before, the rules are looser in one point: fields behind the one that says the type and
items behind the ones it asks for are not looked at.
-/

set_option autoImplicit false

namespace VersionedStore.Payload

/-- An integer as a number of a tree. -/
def integerTree (i : Int) : Json :=
  .number ⟨decide (i < 0), Nat.toDigits 10 i.natAbs, none, none⟩

/-- A text as a string of a tree. -/
def textTree (text : String) : Json := .string (text.toList.map Json.Mark.char)

mutual

/-- A payload as a tree.  Plain bytes that spell a text count as a string, and what no type
asks for becomes null. -/
def tree : Value → Json
  | .boolean b => .boolean b
  | .int32 i => integerTree i.toInt
  | .int64 i => integerTree i.toInt
  | .string s => textTree s
  | .binary subtype bytes => ((Record.text? (.binary subtype bytes)).map textTree).getD .null
  | .array items => .array (trees items)
  | .document fields => .object (fieldTrees fields)
  | _ => .null

/-- The trees of the items of an array. -/
def trees : List Value → List Json
  | [] => []
  | item :: rest => tree item :: trees rest

/-- The trees of the fields of a document. -/
def fieldTrees : List (String × Value) → List (List Json.Mark × Json)
  | [] => []
  | (name, value) :: rest => (name.toList.map Json.Mark.char, tree value) :: fieldTrees rest

end

/-- The items that a type with a form as an array asks for. -/
def askedItems (count : Nat) : Value → Value
  | .array items => .array (items.take count)
  | value => value

/-- Whether a value is a text with the digits of an object id. -/
def spellsObjectId (value : Value) : Bool :=
  (Record.text? value).any fun digits => (ObjectId.read digits).toOption.isSome

/-- Whether a value holds the object id of a pointer: an object id, or its digits as the only
field of a document or the first item of an array. -/
def holdsObjectId : Value → Bool
  | .objectId _ => true
  | .document [("$oid", digits)] => spellsObjectId digits
  | .array (digits :: _) => spellsObjectId digits
  | _ => false

/-- Whether a value is a pointer to a document: the name of a collection and an object id. -/
def isPointer : Value → Bool
  | .document [("$ref", collection), ("$id", id)] | .document [("$id", id), ("$ref", collection)]
  | .array (collection :: id :: _) => (Record.text? collection).isSome && holdsObjectId id
  | _ => false

/-- The number of bytes that a value spells out: plain bytes, the bytes of a text, or an array of
numbers that are bytes. -/
def byteCount? : Value → Option Nat
  | .string text => some text.utf8ByteSize
  | .binary subtype bytes => if subtype = 0 then some bytes.length else none
  | .array items =>
    if items.all fun item => (Record.integer? item).any fun i => 0 ≤ i && i < 256 then
      some items.length
    else none
  | _ => none

/-- Whether a value holds what a type asks for that has no other fields. -/
def fits (name : String) (value : Value) : Bool :=
  match name with
  | "$oid" =>
    match value with
    | .string digits => (ObjectId.read digits).toOption.isSome
    | .binary subtype bytes => subtype == 0 && bytes.length == 12
    | _ => false
  | "$numberDecimal" => (Record.text? value).any fun text => (WideDecimal.read? text).isSome
  | "$numberDecimalBytes" => byteCount? value == some 16
  | "$dbPointer" => isPointer value
  | "$binary" | "$timestamp" | "$regularExpression" =>
    (Json.typed? name (tree (askedItems 2 value))).isSome
  | name => (Json.typed? name (tree value)).isSome

/-- Whether a document has a field whose name says a type. -/
def saysType (fields : List (String × Value)) : Bool :=
  fields.any fun field => Json.typeNames.contains field.1

mutual

/-- Whether a payload can be read. -/
def isReadable : Value → Bool
  | .array items => areReadable items
  | .document fields => isReadableDocument fields
  | .codeWithScope _ scope => !saysType scope && isReadableDocument scope
  | _ => true

/-- Whether all items of an array can be read. -/
def areReadable : List Value → Bool
  | [] => true
  | item :: rest => isReadable item && areReadable rest

/-- Whether a document can be read: up to the first field whose name says a type, if there is
one, and that field. -/
def isReadableDocument : List (String × Value) → Bool
  | [] => true
  | (name, value) :: rest =>
    if Json.typeNames.contains name then
      match name, value, rest with
      | "$code", code, [] => (Record.text? code).isSome
      | "$code", code, ("$scope", .document scope) :: _ =>
        (Record.text? code).isSome && !saysType scope && isReadableDocument scope
      | "$scope", .document scope, ("$code", code) :: _ =>
        (Record.text? code).isSome && !saysType scope && isReadableDocument scope
      | "$code", _, _ | "$scope", _, _ => false
      | name, value, _ => fits name value
    else isReadable value && isReadableDocument rest

end

end VersionedStore.Payload
