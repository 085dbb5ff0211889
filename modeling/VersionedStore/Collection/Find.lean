import VersionedStore.Collection
import VersionedStore.Text.Lower

/-!
# Finding documents

The documents that a filter matches are sorted, cut to a page, and reduced to the fields asked
for, in this order.

* `SortOrder.compare`: the order of two documents under a sort specification.
* `FindOptions.page`: the documents between an offset and a limit.
* `project`: the fields of a document that a projection asks for.
-/

set_option autoImplicit false

namespace VersionedStore

/-- How the documents that are found are returned. -/
structure FindOptions where
  /-- Fields with the directions to sort by. -/
  sort : Option Document := none
  /-- The number of documents to pass over. -/
  skip : Option Nat := none
  /-- The number of documents to return, whatever its sign; none and zero mean all. -/
  limit : Option Int := none
  /-- The fields to include or to exclude. -/
  projection : Option Document := none
  /-- How strings are compared when sorting. -/
  collation : Option Document := none

namespace SortOrder

/-- Whether a collation passes over letter case: its strength is one of the two lowest. -/
def ignoresCase (collation : Option Document) : Bool :=
  match collation.bind fun fields => Document.get? fields "strength" with
  | some (.int32 strength) => decide (strength ≤ 2)
  | some (.int64 strength) => decide (strength ≤ 2)
  | _ => false

/-- Whether a direction is that of descending order. -/
def isDescending : Value → Bool
  | .int32 direction => decide (direction < 0)
  | .int64 direction => decide (direction < 0)
  | .double direction => direction.compare? Double.zero == some .lt
  | _ => false

/-- The order of two values in ascending order. -/
def compareValues (ignoreCase : Bool) (a b : Comparand) : Ordering :=
  match a, b with
  | .string x, .string y =>
    if ignoreCase then compare (Text.lower x) (Text.lower y) else a.sortOrder b
  | _, _ => a.sortOrder b

/-- What a document is sorted by under a field; a missing value counts as null. -/
def keyAt (document : Document) (path : String) : Comparand :=
  ((Document.at? document path).getD .null).comparand

/-- The order of two documents under one field. -/
def compareAt (ignoreCase : Bool) (path : String) (direction : Value) (a b : Document) :
    Ordering :=
  if isDescending direction then compareValues ignoreCase (keyAt b path) (keyAt a path)
  else compareValues ignoreCase (keyAt a path) (keyAt b path)

/-- The order of two documents under the fields of a sort specification, the first of which
that tells them apart decides. -/
def compare (ignoreCase : Bool) : Document → Document → Document → Ordering
  | [], _, _ => .eq
  | (path, direction) :: rest, a, b =>
    (compareAt ignoreCase path direction a b).then (compare ignoreCase rest a b)

end SortOrder

/-- Documents in the order of a sort specification; those that it does not tell apart stay in
their order. -/
def sortDocuments (ignoreCase : Bool) (specification : Document) (documents : List Document) :
    List Document :=
  documents.mergeSort fun a b => SortOrder.compare ignoreCase specification a b != .gt

/-- Whether a flag of a projection says no. -/
def isZeroFlag : Value → Bool
  | .int32 flag => flag == 0
  | .int64 flag => flag == 0
  | .boolean flag => !flag
  | _ => false

/-- Whether a projection includes the fields it names; it does if the flag of any field other
than the identifying one says so. -/
def isInclusion (projection : Document) : Bool :=
  projection.any fun field => field.1 != idField && !isZeroFlag field.2

/-- Whether a projection takes the identity of documents away. -/
def hidesId (projection : Document) : Bool :=
  match Document.get? projection idField with
  | some flag => isZeroFlag flag
  | none => false

/-- Whether a projection keeps a field. -/
def keepsField (projection : Document) (name : String) : Bool :=
  if name = idField then !hidesId projection
  else if isInclusion projection then Document.contains projection name
  else !Document.contains projection name

/-- The fields of a document that a projection keeps, in their order. -/
def project (projection document : Document) : Document :=
  document.filter fun field => keepsField projection field.1

namespace FindOptions

/-- The documents on the page that the options ask for. -/
def page (options : FindOptions) (documents : List Document) : List Document :=
  let left := documents.drop (options.skip.getD 0)
  let limit := (options.limit.getD 0).natAbs
  if limit = 0 then left else left.take limit

/-- The documents in the order that the options ask for. -/
def sorted (options : FindOptions) (documents : List Document) : List Document :=
  match options.sort with
  | some specification =>
    sortDocuments (SortOrder.ignoresCase options.collation) specification documents
  | none => documents

/-- The documents with the fields that the options ask for. -/
def projected (options : FindOptions) (documents : List Document) : List Document :=
  match options.projection with
  | some projection => documents.map (project projection)
  | none => documents

end FindOptions

/-- The documents that a filter matches, as options ask for them. -/
def Collection.find (collection : Collection) (filter : Document) (options : FindOptions) :
    Result (List Document) :=
  (Collection.matching filter collection.documents).map fun found =>
    options.projected (options.page (options.sorted found))

/-- The number of documents that a filter matches. -/
def Collection.count (collection : Collection) (filter : Document) : Result Nat :=
  (Collection.matching filter collection.documents).map List.length

end VersionedStore
