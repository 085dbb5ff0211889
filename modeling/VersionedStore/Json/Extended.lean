import VersionedStore.Calendar.Layout
import VersionedStore.Json.Numeral
import VersionedStore.Number.Decimal
import VersionedStore.Number.Shortest
import VersionedStore.Number.WideDecimal
import VersionedStore.Text.Blank
import VersionedStore.Text.Hex
import VersionedStore.Value

/-!
# Values in JSON

Most values have a form of their own in JSON.  The others are written as an object with one
field, whose name says the type: an object id is `{"$oid": "…"}` and an instant is
`{"$date": {"$numberLong": "…"}}`.

* `Json.value?`, `Json.document?`: what a JSON tree means.
* `Value.json`: the text of a value.  Integers of both widths are written as plain numbers, so
  that reading the text back may change the width, and plain bytes as an array of numbers.
-/

set_option autoImplicit false

namespace VersionedStore

namespace Json

/-- The names that say a type. -/
def typeNames : List String :=
  ["$oid", "$symbol", "$numberInt", "$numberLong", "$numberDouble", "$numberDecimal",
    "$numberDecimalBytes", "$binary", "$uuid", "$code", "$scope", "$timestamp",
    "$regularExpression", "$dbPointer", "$date", "$minKey", "$maxKey", "$undefined"]

/-- The value of a number: without a sign an integer takes the smaller width if it fits, and with
a sign always the larger one. -/
def numberValue? (numeral : Numeral) : Option Value :=
  match numeral.value? with
  | some (.natural n) =>
    if n < 0x80000000 then some (.int32 (Int32.ofNat n))
    else if n < 0x8000000000000000 then some (.int64 (Int64.ofNat n))
    else none
  | some (.negative i) => some (.int64 (Int64.ofInt i))
  | some (.double d) => some (.double d)
  | none => none

/-- A 64-bit integer. -/
def int64? : Json → Option Int64
  | .number numeral =>
    match numeral.value? with
    | some (.natural n) => if n < 0x8000000000000000 then some (Int64.ofNat n) else none
    | some (.negative i) => some (Int64.ofInt i)
    | _ => none
  | _ => none

/-- An integer without a sign, up to a limit. -/
def natural? (limit : Nat) : Json → Option Nat
  | .number numeral =>
    match numeral.value? with
    | some (.natural n) => if n ≤ limit then some n else none
    | _ => none
  | _ => none

/-- The text of a string. -/
def string? : Json → Option String
  | .string marks => text? marks
  | _ => none

/-- The texts of an array of strings. -/
def strings? : Json → Option (List String)
  | .array items => items.mapM string?
  | _ => none

/-- The values of an object that has fields of some names and no others, in the order of the
names, or the items of an array that has as many. -/
def exactFields? (names : List String) : Json → Option (List Json)
  | .object fields => do
    let named ← fields.mapM fun field => (text? field.1).map fun name => (name, field.2)
    if named.length = names.length then
      names.mapM fun name => (named.find? fun field => field.1 == name).map Prod.snd
    else none
  | .array items => if items.length = names.length then some items else none
  | _ => none

/-- A 64-bit integer that is written as a string. -/
def writtenInt64? (json : Json) : Option Int64 := do
  (Integer.readInt64 (← string? json)).toOption

/-- An instant: milliseconds as `{"$numberLong": "…"}` or as a number, or a text in the instant
layout. -/
def instant? (json : Json) : Option Int64 :=
  match json with
  | .object _ | .array _ => do
    match ← exactFields? ["$numberLong"] json with
    | [milliseconds] => writtenInt64? milliseconds
    | _ => none
  | .string marks => do
    let milliseconds ← (Calendar.readIn Calendar.instantLayout (← text? marks)).toOption
    pure (Int64.ofInt milliseconds)
  | _ => int64? json

/-- A double that is written as a string. -/
def writtenDouble? (json : Json) : Option Double := do
  match ← string? json with
  | "Infinity" => pure (Double.infinity false)
  | "-Infinity" => pure (Double.infinity true)
  | "NaN" => pure Double.nan
  | text => (Decimal.read text).toOption

/-- Bytes in base 64 with their subtype in hexadecimal. -/
def binary? (json : Json) : Option Value := do
  match ← (← exactFields? ["base64", "subType"] json).mapM string? with
  | [digits, subtype] =>
    match ← Text.bytesOfHex? subtype.toList with
    | [subtype] => pure (.binary subtype (← Text.bytesOfBase64? digits.toList))
    | _ => none
  | _ => none

/-- The bytes of a universally unique identifier in its groups of eight, four, four, four and
twelve hexadecimal digits, which are joined by hyphens. -/
def groupedIdentifier? (chars : List Char) : Option (List UInt8) :=
  let groups := chars.splitOn '-'
  if groups.map List.length = [8, 4, 4, 4, 12] then Text.bytesOfHex? groups.flatten else none

/-- The bytes of a universally unique identifier: its digits alone or in groups, in which case
it may stand in braces or, in letters of either case, behind the name of its kind. -/
def identifier? (text : String) : Option (List UInt8) :=
  let chars := text.toList
  let kind := "urn:uuid:".toList
  if chars.length = 32 then Text.bytesOfHex? chars
  else if chars.head? = some '\x7b' ∧ chars.getLast? = some '\x7d' then
    groupedIdentifier? (chars.drop 1).dropLast
  else if (chars.take kind.length).map Char.toLower = kind then
    groupedIdentifier? (chars.drop kind.length)
  else groupedIdentifier? chars

/-- A regular expression; its options are put in order, and no part holds the null character. -/
def regularExpression? (pattern options : String) : Option Value :=
  if pattern.toList.contains '\x00' || options.toList.contains '\x00' then none
  else some (.regularExpression pattern
    (String.ofList (options.toList.mergeSort fun a b => decide (a.toNat ≤ b.toNat))))

/-- Sixteen bytes, as an array of numbers or as the bytes of a text. -/
def wideDecimalOfBytes? (json : Json) : Option WideDecimal :=
  match json with
  | .array items => do
    let bytes ← items.mapM (natural? 255)
    WideDecimal.ofBytes? (bytes.map UInt8.ofNat)
  | .string marks => do WideDecimal.ofBytes? (← text? marks).toUTF8.toList
  | _ => none

/-- An object id as an object of its type. -/
def objectId? (json : Json) : Option ObjectId := do
  match ← exactFields? ["$oid"] json with
  | [digits] => (ObjectId.read (← string? digits)).toOption
  | _ => none

/-- Code with its scope. -/
def scoped? (code : Json) : Option Value → Option Value
  | some (.document scope) => (string? code).map fun text => .codeWithScope text scope
  | _ => none

/-- The value of an object whose field name says the type, given the value of that field. -/
def typed? (name : String) (json : Json) : Option Value :=
  match name with
  | "$oid" => do pure (.objectId (← (ObjectId.read (← string? json)).toOption))
  | "$symbol" => (string? json).map .symbol
  | "$numberInt" => do pure (.int32 (← (Integer.readInt32 (← string? json)).toOption))
  | "$numberLong" => (writtenInt64? json).map .int64
  | "$numberDouble" => (writtenDouble? json).map .double
  | "$numberDecimal" => do pure (.decimal (← WideDecimal.read? (← string? json)))
  | "$numberDecimalBytes" => (wideDecimalOfBytes? json).map .decimal
  | "$dbPointer" => do
    match ← exactFields? ["$ref", "$id"] json with
    | [space, id] => pure (.pointer (← string? space) (← objectId? id))
    | _ => none
  | "$binary" => binary? json
  | "$uuid" => do pure (.binary 4 (← identifier? (← string? json)))
  | "$code" => (string? json).map .code
  | "$timestamp" => do
    match ← (← exactFields? ["t", "i"] json).mapM (natural? 0xffffffff) with
    | [time, increment] => pure (.timestamp (UInt32.ofNat time) (UInt32.ofNat increment))
    | _ => none
  | "$regularExpression" => do
    match ← (← exactFields? ["pattern", "options"] json).mapM string? with
    | [pattern, options] => regularExpression? pattern options
    | _ => none
  | "$date" => (instant? json).map .dateTime
  | "$minKey" => (natural? 255 json).bind fun n => if n = 1 then some .minKey else none
  | "$maxKey" => (natural? 255 json).bind fun n => if n = 1 then some .maxKey else none
  | "$undefined" =>
    match json with
    | .boolean true => some .undefined
    | _ => none
  | _ => none

mutual

/-- The value that a tree means. -/
def value? : Json → Option Value
  | .null => some .null
  | .boolean b => some (.boolean b)
  | .number numeral => numberValue? numeral
  | .string marks => (text? marks).map .string
  | .array items => (values? items).map .array
  | .object fields => objectValue? [] fields

/-- The values of the items of an array. -/
def values? : List Json → Option (List Value)
  | [] => some []
  | item :: rest => do
    let first ← value? item
    let others ← values? rest
    pure (first :: others)

/-- The value of an object, of which some fields have been read.  A name that says a type makes
a value of that type, whatever came before it, and must be the last one; only code may have its
scope behind it, or in front of it. -/
def objectValue? (soFar : Document) : List (List Mark × Json) → Option Value
  | [] => some (.document soFar)
  | (marks, json) :: rest =>
    match text? marks with
    | none => none
    | some name =>
      if typeNames.contains name then
        match rest with
        | [] => typed? name json
        | [(others, other)] =>
          match name, text? others with
          | "$code", some "$scope" => scoped? json (value? other)
          | "$scope", some "$code" => scoped? other (value? json)
          | _, _ => none
        | _ => none
      else
        match value? json with
        | none => none
        | some value => objectValue? (Document.set soFar name value) rest

end

/-- The document that a tree means. -/
def document? (json : Json) : Option Document :=
  match value? json with
  | some (.document fields) => some fields
  | _ => none

/-- A character inside a string. -/
def escape (c : Char) : List Char :=
  if c = '"' then ['\\', '"']
  else if c = '\\' then ['\\', '\\']
  else if c = '\x08' then ['\\', 'b']
  else if c = '\x0c' then ['\\', 'f']
  else if c = '\n' then ['\\', 'n']
  else if c = '\r' then ['\\', 'r']
  else if c = '\t' then ['\\', 't']
  else if c.toNat < 0x20 then ['\\', 'u'] ++ Text.hexDigits 4 c.toNat
  else [c]

/-- A string. -/
def quoted (text : String) : String :=
  String.ofList ('"' :: text.toList.flatMap escape ++ ['"'])

/-- An object of fields whose values are written already. -/
def written (fields : List (String × String)) : String :=
  "\x7b" ++ Text.join "," (fields.map fun field => quoted field.1 ++ ":" ++ field.2) ++ "\x7d"

/-- An array of items that are written already. -/
def writtenArray (items : List String) : String := "[" ++ Text.join "," items ++ "]"

end Json

namespace Value

open Json

/-- The text of a value that holds no other values.  A wide decimal number is written by its
bytes. -/
def jsonScalar : Value → String
  | .boolean b => if b then "true" else "false"
  | .int32 i => Integer.write i.toInt
  | .int64 i => Integer.write i.toInt
  | .double d => d.scientific?.getD "null"
  | .string s => quoted s
  | .dateTime milliseconds =>
    written [("$date", written [("$numberLong", quoted (Integer.write milliseconds.toInt))])]
  | .objectId id => written [("$oid", quoted id.hex)]
  | .timestamp time increment =>
    written [("$timestamp",
      written [("t", Integer.digits time.toNat), ("i", Integer.digits increment.toNat)])]
  | .binary 0 bytes => writtenArray (bytes.map fun byte => Integer.digits byte.toNat)
  | .binary subtype bytes =>
    written [("$binary",
      written [("base64", quoted (String.ofList (Text.base64 bytes))),
        ("subType", quoted (String.ofList (Text.hexDigits 2 subtype.toNat)))])]
  | .regularExpression pattern options =>
    written [("$regularExpression",
      written [("pattern", quoted pattern), ("options", quoted options)])]
  | .code text => written [("$code", quoted text)]
  | .symbol text => written [("$symbol", quoted text)]
  | .decimal wide =>
    written [("$numberDecimalBytes",
      writtenArray (wide.bytes.map fun byte => Integer.digits byte.toNat))]
  | .pointer space id =>
    written [("$dbPointer",
      written [("$ref", quoted space), ("$id", written [("$oid", quoted id.hex)])])]
  | .undefined => written [("$undefined", "true")]
  | .minKey => written [("$minKey", "1")]
  | .maxKey => written [("$maxKey", "1")]
  | .null | .array _ | .document _ | .codeWithScope _ _ => "null"

mutual

/-- The text of a value. -/
def json : Value → String
  | .array items => writtenArray (jsonItems items)
  | .document fields => written (jsonFields fields)
  | .codeWithScope text scope =>
    written [("$code", quoted text), ("$scope", written (jsonFields scope))]
  | value => jsonScalar value

/-- The texts of the items of an array. -/
def jsonItems : List Value → List String
  | [] => []
  | item :: rest => json item :: jsonItems rest

/-- The texts of the fields of a document. -/
def jsonFields : List (String × Value) → List (String × String)
  | [] => []
  | (name, value) :: rest => (name, json value) :: jsonFields rest

end

end Value

end VersionedStore
