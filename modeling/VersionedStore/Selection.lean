import VersionedStore.Error
import VersionedStore.Text.Blank

/-!
# Selections

A projection says which fields of a document to return: a field maps to one to be included and
to zero to be excluded.  A sort specification maps fields to one for ascending and minus one for
descending order.  Both are made of lists of names here.
-/

set_option autoImplicit false

namespace VersionedStore

/-- The projection that includes some fields or excludes some.  With neither, whole documents
are returned; both together contradict each other. -/
def projectionOf (included excluded : List String) : Result (Option Document) :=
  if !included.isEmpty && !excluded.isEmpty then .error (.config .mixedProjection)
  else if !included.isEmpty then
    .ok (some (Document.ofFields (included.map fun field => (field, .int32 1))))
  else if !excluded.isEmpty then
    .ok (some (Document.ofFields (excluded.map fun field => (field, .int32 0))))
  else .ok none

/-- The field and the direction of a sort key: a leading minus sign means descending order, and
a plus sign may say the other.  A key without a field says nothing. -/
def sortField? (key : String) : Option (String × Value) :=
  let (field, direction) : List Char × Int32 :=
    match Text.trimChars key.toList with
    | '-' :: field => (field, -1)
    | '+' :: field => (field, 1)
    | field => (field, 1)
  if field.isEmpty then none else some (String.ofList field, .int32 direction)

/-- The sort specification of some keys, if any of them says something. -/
def sortOf (keys : List String) : Option Document :=
  let fields := keys.filterMap sortField?
  if fields.isEmpty then none else some (Document.ofFields fields)

end VersionedStore
