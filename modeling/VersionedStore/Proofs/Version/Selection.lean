import VersionedStore.Version
import VersionedStore.Proofs.Filter.Evaluation

/-!
# The documents below and above a version

The filters of the older and of the newer documents are evaluated on every document without a
mistake, so that each parts the documents of a collection into those that match and those that do
not.

* `isOlder`, `isNewer`: whether the filters match a document.
* `accepts_lowerVersions`, `accepts_higherVersions`: the filters never fail.
-/

set_option autoImplicit false

namespace VersionedStore

open Condition

/-- Whether the filter of the documents below a version matches a document. -/
def isOlder (target : Int64) (document : Document) : Bool :=
  match Filter.accepts document (lowerVersions target) with
  | .ok matched => matched
  | .error _ => false

/-- A marker is below a version, or there is no marker. -/
theorem accepts_lowerVersions_eq (target : Int64) (document : Document) :
    Filter.accepts document (lowerVersions target) =
      .ok (ordered (· == .lt) (Document.at? document versionPath) (.int64 target) ||
        (Document.at? document versionPath).isNone) := by
  have hpath : isOperatorName versionPath = false := by decide
  have hbelow : Filter.accepts document [(versionPath, .document [("$lt", .int64 target)])] =
      .ok (ordered (· == .lt) (Document.at? document versionPath) (.int64 target)) :=
    Filter.accepts_operator hpath (by decide) document _
  have hmissing : Filter.accepts document
      [(versionPath, .document [("$exists", .boolean false)])] =
      .ok (Document.at? document versionPath).isNone := by
    rw [Filter.accepts_operator hpath (by decide)]
    simp only [operatorHolds, asksForPresence]
    cases Document.at? document versionPath <;> rfl
  unfold lowerVersions
  rw [Filter.accepts_singleton, Filter.fieldAccepts_any]
  simp only [Filter.checkClauses, Except.bind, Filter.anyAccepts, hbelow, hmissing]
  cases ordered (· == .lt) (Document.at? document versionPath) (.int64 target) <;>
    cases (Document.at? document versionPath).isNone <;> rfl

/-- The filter of the older documents never fails. -/
theorem accepts_lowerVersions (target : Int64) (document : Document) :
    Filter.accepts document (lowerVersions target) = .ok (isOlder target document) := by
  unfold isOlder
  rw [accepts_lowerVersions_eq]

/-- A document is below a version if its marker is, or if it has none. -/
theorem isOlder_eq (target : Int64) (document : Document) :
    isOlder target document =
      (ordered (· == .lt) (Document.at? document versionPath) (.int64 target) ||
        (Document.at? document versionPath).isNone) :=
  Except.ok.inj ((accepts_lowerVersions target document).symm.trans
    (accepts_lowerVersions_eq target document))

/-- Whether the marker of a document is above a version. -/
def isNewer (target : Int64) (document : Document) : Bool :=
  ordered (· == .gt) (Document.at? document versionPath) (.int64 target)

/-- The filter of the newer documents never fails. -/
theorem accepts_higherVersions (target : Int64) (document : Document) :
    Filter.accepts document (higherVersions target) = .ok (isNewer target document) :=
  Filter.accepts_operator (by decide) (by decide) document _

end VersionedStore
