import VersionedStore.Value
import VersionedStore.NameMap
import VersionedStore.Number.Rounding

/-!
# Comparing values

Values are compared through their comparands.  A comparand forgets what comparisons do not see:
the width of a number (all are taken as doubles), the order of a document's fields (they are
kept by name), and the content of the types that have no order (all count as null).

* `Comparand.equals`: equality, under which a document is a map from names to values and what
  is not a number equals nothing.
* `Comparand.compare?`: the order within one type, for the types that have one.
* `Comparand.sortOrder`: that order, completed by the rank of the type.
-/

set_option autoImplicit false

namespace VersionedStore

/-- What comparisons see of a value.  The entries of a document are in increasing order of
name. -/
inductive Comparand where
  | null
  | boolean (b : Bool)
  | number (d : Double)
  | dateTime (milliseconds : Int64)
  | string (s : String)
  | objectId (id : ObjectId)
  | array (items : List Comparand)
  | document (entries : List (String × Comparand))
  deriving Inhabited

namespace Comparand

/-- Adds an entry to entries in increasing order of name, unless the name is there. -/
def addEntry (name : String) (value : Comparand) :
    List (String × Comparand) → List (String × Comparand)
  | [] => [(name, value)]
  | (other, held) :: rest =>
    if name < other then (name, value) :: (other, held) :: rest
    else if name = other then (other, held) :: rest
    else (other, held) :: addEntry name value rest

mutual

/-- The comparand of a value. -/
def ofValue : Value → Comparand
  | .boolean b => .boolean b
  | .int32 i => .number (Double.ofInt i.toInt)
  | .int64 i => .number (Double.ofInt i.toInt)
  | .double d => .number d
  | .dateTime milliseconds => .dateTime milliseconds
  | .string s => .string s
  | .objectId id => .objectId id
  | .array items => .array (ofItems items)
  | .document fields => .document (ofFields fields)
  | .null | .timestamp _ _ | .binary _ _ | .regularExpression _ _ | .code _ | .codeWithScope _ _
  | .symbol _ | .decimal _ | .pointer _ _ | .undefined | .minKey | .maxKey => .null

/-- The comparands of the items of an array. -/
def ofItems : List Value → List Comparand
  | [] => []
  | item :: rest => ofValue item :: ofItems rest

/-- The entries of a document by name; of fields with one name, the last counts. -/
def ofFields : List (String × Value) → List (String × Comparand)
  | [] => []
  | (name, value) :: rest => addEntry name (ofValue value) (ofFields rest)

end

mutual

/-- Equality of comparands. -/
def equals : Comparand → Comparand → Bool
  | .null, .null => true
  | .boolean a, .boolean b => a == b
  | .number a, .number b => a.equals b
  | .dateTime a, .dateTime b => a == b
  | .string a, .string b => a == b
  | .objectId a, .objectId b => a == b
  | .array a, .array b => equalsItems a b
  | .document a, .document b => equalsEntries a b
  | _, _ => false

/-- Equality of rows of comparands, item by item. -/
def equalsItems : List Comparand → List Comparand → Bool
  | [], [] => true
  | a :: as, b :: bs => equals a b && equalsItems as bs
  | _, _ => false

/-- Equality of entries in increasing order of name, entry by entry. -/
def equalsEntries : List (String × Comparand) → List (String × Comparand) → Bool
  | [], [] => true
  | (a, x) :: as, (b, y) :: bs => a == b && equals x y && equalsEntries as bs
  | _, _ => false

end

/-- The order of two comparands of one type; arrays and documents have none, nor has what is not
a number. -/
def compare? : Comparand → Comparand → Option Ordering
  | .null, .null => some .eq
  | .boolean a, .boolean b => some (compare a b)
  | .number a, .number b => a.compare? b
  | .dateTime a, .dateTime b => some (compare a.toInt b.toInt)
  | .string a, .string b => some (compare a b)
  | .objectId a, .objectId b => some (a.order b)
  | _, _ => none

/-- The place of a type among the types. -/
def rank : Comparand → Nat
  | .null => 0
  | .number _ => 1
  | .string _ => 2
  | .document _ => 3
  | .array _ => 4
  | .objectId _ => 5
  | .boolean _ => 6
  | .dateTime _ => 7

/-- The order used for sorting: within a type where there is an order, and by rank otherwise. -/
def sortOrder (a b : Comparand) : Ordering :=
  match compare? a b with
  | some order => order
  | none => compare a.rank b.rank

end Comparand

namespace Value

/-- The comparand of a value. -/
def comparand (value : Value) : Comparand := Comparand.ofValue value

/-- Equality as comparisons see it. -/
def looselyEquals (a b : Value) : Bool := a.comparand.equals b.comparand

mutual

/-- Equality of type and content: numbers of different width differ, and the order of fields
does not count, nor that of the names of a scope. -/
def equals : Value → Value → Bool
  | .null, .null => true
  | .boolean a, .boolean b => a == b
  | .int32 a, .int32 b => a == b
  | .int64 a, .int64 b => a == b
  | .double a, .double b => a.equals b
  | .string a, .string b => a == b
  | .array a, .array b => equalItems a b
  | .document a, .document b => a.length == b.length && equalFields a b
  | .dateTime a, .dateTime b => a == b
  | .objectId a, .objectId b => a == b
  | .timestamp t i, .timestamp t' i' => t == t' && i == i'
  | .binary s b, .binary s' b' => s == s' && b == b'
  | .regularExpression p o, .regularExpression p' o' => p == p' && o == o'
  | .code a, .code b => a == b
  | .codeWithScope a s, .codeWithScope b t =>
    a == b && (s.length == t.length && equalFields s t)
  | .symbol a, .symbol b => a == b
  | .decimal a, .decimal b => a == b
  | .pointer s a, .pointer t b => s == t && a == b
  | .undefined, .undefined => true
  | .minKey, .minKey => true
  | .maxKey, .maxKey => true
  | _, _ => false

/-- Equality of rows of values, item by item. -/
def equalItems : List Value → List Value → Bool
  | [], [] => true
  | a :: as, b :: bs => equals a b && equalItems as bs
  | _, _ => false

/-- Whether every field of a list is a field of a document. -/
def equalFields : List (String × Value) → Document → Bool
  | [], _ => true
  | (name, value) :: rest, against =>
    (match Document.get? against name with
      | some other => equals value other
      | none => false) && equalFields rest against

end

end Value

end VersionedStore
