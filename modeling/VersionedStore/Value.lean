import VersionedStore.Number.WideDecimal
import VersionedStore.ObjectId

/-!
# Values and documents

A document is a list of fields in insertion order; no name stands in it twice.  Values are the
scalars of the document format, arrays and documents.  Setting a field that is there replaces
its value in place, and removing a field keeps the order of the others.

* `Document.get?`, `Document.set`, `Document.erase`, `Document.ofFields`: the fields by name.
* `Value.at?`, `Document.at?`: the value at the end of a path such as `meta.version`.
* `Value.Kind`: the types of values, with their names.
-/

set_option autoImplicit false

namespace VersionedStore

/-- A value of the document format. -/
inductive Value where
  | null
  | boolean (b : Bool)
  | int32 (i : Int32)
  | int64 (i : Int64)
  | double (d : Double)
  | string (s : String)
  | array (items : List Value)
  | document (fields : List (String × Value))
  /-- Milliseconds since the start of 1970. -/
  | dateTime (milliseconds : Int64)
  | objectId (id : ObjectId)
  | timestamp (time increment : UInt32)
  | binary (subtype : UInt8) (bytes : List UInt8)
  | regularExpression (pattern options : String)
  | code (text : String)
  /-- Code with values for some of its names. -/
  | codeWithScope (text : String) (scope : List (String × Value))
  | symbol (text : String)
  | decimal (number : WideDecimal)
  /-- The document of an identity in a collection, which is given with its database. -/
  | pointer (space : String) (id : ObjectId)
  | undefined
  | minKey
  | maxKey
  deriving Inhabited

/-- Fields in insertion order. -/
abbrev Document := List (String × Value)

namespace Value

/-- The types of values. -/
inductive Kind where
  | null | boolean | int32 | int64 | double | string | array | document | dateTime | objectId
  | timestamp | binary | regularExpression | code | codeWithScope | symbol | decimal | pointer
  | undefined | minKey | maxKey
  deriving DecidableEq

/-- The type of a value. -/
def kind : Value → Kind
  | .null => .null
  | .boolean _ => .boolean
  | .int32 _ => .int32
  | .int64 _ => .int64
  | .double _ => .double
  | .string _ => .string
  | .array _ => .array
  | .document _ => .document
  | .dateTime _ => .dateTime
  | .objectId _ => .objectId
  | .timestamp _ _ => .timestamp
  | .binary _ _ => .binary
  | .regularExpression _ _ => .regularExpression
  | .code _ => .code
  | .codeWithScope _ _ => .codeWithScope
  | .symbol _ => .symbol
  | .decimal _ => .decimal
  | .pointer _ _ => .pointer
  | .undefined => .undefined
  | .minKey => .minKey
  | .maxKey => .maxKey

/-- The name of a type. -/
def Kind.name : Kind → String
  | .null => "Null"
  | .boolean => "Boolean"
  | .int32 => "Int32"
  | .int64 => "Int64"
  | .double => "Double"
  | .string => "String"
  | .array => "Array"
  | .document => "EmbeddedDocument"
  | .dateTime => "DateTime"
  | .objectId => "ObjectId"
  | .timestamp => "Timestamp"
  | .binary => "Binary"
  | .regularExpression => "RegularExpression"
  | .code => "JavaScriptCode"
  | .codeWithScope => "JavaScriptCodeWithScope"
  | .symbol => "Symbol"
  | .decimal => "Decimal128"
  | .pointer => "DbPointer"
  | .undefined => "Undefined"
  | .minKey => "MinKey"
  | .maxKey => "MaxKey"

end Value

namespace Document

/-- The value of the first field of a name. -/
def get? : Document → String → Option Value
  | [], _ => none
  | (name, value) :: rest, wanted => if name = wanted then some value else get? rest wanted

/-- Whether there is a field of a name. -/
def contains (document : Document) (name : String) : Bool := (get? document name).isSome

/-- Sets a field: in its place if it is there, and behind the others if not. -/
def set : Document → String → Value → Document
  | [], name, value => [(name, value)]
  | (other, held) :: rest, name, value =>
    if other = name then (name, value) :: rest else (other, held) :: set rest name value

/-- The document without the field of a name. -/
def erase (document : Document) (name : String) : Document :=
  document.filter (fun field => field.1 != name)

/-- Sets the fields of a list from left to right. -/
def setAll (document : Document) (fields : List (String × Value)) : Document :=
  fields.foldl (fun result field => set result field.1 field.2) document

/-- The document of a list of fields: a name that comes again keeps its place and takes the
later value. -/
def ofFields (fields : List (String × Value)) : Document := setAll [] fields

/-- The names of the fields, in order. -/
def names (document : Document) : List String := document.map Prod.fst

/-- Puts a field before all others; it must not be there yet. -/
def withFirst (document : Document) (name : String) (value : Value) : Document :=
  (name, value) :: document

/-- Merges documents from left to right: a name keeps the place of its first appearance and has
the value of its last. -/
def combine (documents : List Document) : Document := documents.foldl setAll []

end Document

/-- The field that identifies a document in its collection. -/
def idField : String := "_id"

namespace Value

/-- Follows names through nested documents. -/
def descend (value : Value) : List String → Option Value
  | [] => some value
  | name :: rest =>
    match value with
    | .document fields =>
      match Document.get? fields name with
      | some inner => descend inner rest
      | none => none
    | _ => none

end Value

/-- The names of a path such as `meta.version`, which are parted by points. -/
def pathNames (path : String) : List String := (path.toList.splitOn '.').map String.ofList

/-- The value at the end of a path through nested documents. -/
def Document.at? (document : Document) (path : String) : Option Value :=
  (Value.document document).descend (pathNames path)

end VersionedStore
