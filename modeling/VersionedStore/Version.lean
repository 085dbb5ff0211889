import VersionedStore.Value

/-!
# Version markers

A document carries the version of its shape as a number at `meta.version`.  A document without
such a number has version zero.
-/

set_option autoImplicit false

namespace VersionedStore

/-- The path of the version marker. -/
def versionPath : String := "meta.version"

/-- The version that a value marks, if it is a number. -/
def Value.asVersion? : Value → Option Int64
  | .int32 i => some i.toInt64
  | .int64 i => some i
  | .double d => some d.toInt64
  | _ => none

/-- The version of a document. -/
def Document.version (document : Document) : Int64 :=
  match Document.get? document "meta" with
  | some (.document fields) =>
    match Document.get? fields "version" with
    | some marker => marker.asVersion?.getD 0
    | none => 0
  | _ => 0

/-- The filter of the documents with a marker above a version. -/
def higherVersions (target : Int64) : Document :=
  [(versionPath, .document [("$gt", .int64 target)])]

/-- The filter of the documents with a marker below a version or without a marker. -/
def lowerVersions (target : Int64) : Document :=
  [("$or", .array [
    .document [(versionPath, .document [("$lt", .int64 target)])],
    .document [(versionPath, .document [("$exists", .boolean false)])]])]

end VersionedStore
