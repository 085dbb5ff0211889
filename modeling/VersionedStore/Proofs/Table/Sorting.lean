import VersionedStore.Proofs.Collection.Sorting
import VersionedStore.Proofs.Table.Paging

/-!
# Sorted rows

A query that asks for whole documents without a window returns those that match in the order of its
sort keys.

* `Table.Query.sortFields`: the fields that the keys name, with their directions.
* `Table.Query.answer_whole`: the rows are the documents that match, sorted by these fields.
* `SortOrder.ignoresCase_iff`: which collations ignore case.
* `Table.Query.rows_sorted`: so the rows are in order, and ties in the order of insertion.
-/

set_option autoImplicit false

namespace VersionedStore

/-- A sort by no field leaves documents as they are. -/
theorem sortDocuments_nil (ignoreCase : Bool) (documents : List Document) :
    sortDocuments ignoreCase [] documents = documents := by
  apply List.mergeSort_of_pairwise
  apply List.pairwise_of_forall_mem_list
  intro a _ b _
  rfl

/-- Whether a collation has a whole number up to two as its strength. -/
def SortOrder.HasLowStrength (collation : Option Document) : Prop :=
  ∃ fields, collation = some fields ∧
    ((∃ strength : Int32, Document.get? fields "strength" = some (.int32 strength) ∧ strength ≤ 2) ∨
      ∃ strength : Int64, Document.get? fields "strength" = some (.int64 strength) ∧ strength ≤ 2)

/-- These are the collations that ignore case. -/
theorem SortOrder.ignoresCase_iff (collation : Option Document) :
    ignoresCase collation = true ↔ HasLowStrength collation := by
  unfold ignoresCase HasLowStrength
  cases collation with
  | none => simp
  | some fields =>
    rw [Option.bind_some]
    cases hstrength : Document.get? fields "strength" with
    | none => simp [hstrength]
    | some strength => cases strength <;> simp [hstrength]

namespace Table.Query

open SortOrder

/-- The fields that a query sorts by, with their directions. -/
def sortFields (query : Query) : Document := query.sort.filterMap sortField?

/-- Keys that name different fields sort by these fields in their order. -/
theorem sorted_sortFields {query : Query} (hdistinct : (Document.names query.sortFields).Nodup)
    {options : FindOptions} (hsort : options.sort = sortOf query.sort) (found : List Document) :
    options.sorted found =
      sortDocuments (ignoresCase options.collation) query.sortFields found := by
  have hfields : Document.ofFields query.sortFields = query.sortFields :=
    Document.setAll_of_disjoint hdistinct (by simp)
  have hspecification : sortOf query.sort =
      if query.sortFields.isEmpty then none else some query.sortFields := by
    show (if query.sortFields.isEmpty then none else some (Document.ofFields query.sortFields)) = _
    rw [hfields]
  unfold FindOptions.sorted
  rw [hsort, hspecification]
  cases hempty : query.sortFields with
  | nil => exact (sortDocuments_nil _ found).symm
  | cons field rest => rfl

/-- A query for whole documents without a window returns those that match, sorted. -/
theorem answer_whole {session : Session} (hfaults : session.faults = .none) (name : String)
    {query : Query} (hstart : query.start = 0) (hlimit : query.limit = 0)
    (hincluded : query.included = []) (hexcluded : query.excluded = [])
    (hdistinct : (Document.names query.sortFields).Nodup) {test : Document → Bool}
    (hfilter : ∀ document ∈ session.store.documents name,
      Filter.accepts document query.filter = .ok (test document)) :
    query.answer session name = .ok ⟨((session.store.documents name).filter test).length,
      sortDocuments (ignoresCase query.collation) query.sortFields
        ((session.store.documents name).filter test)⟩ := by
  have hoptions : query.options = .ok { sort := sortOf query.sort, collation := query.collation } := by
    unfold options
    rw [hstart, hlimit, hincluded, hexcluded]
    rfl
  have hsorted : FindOptions.sorted { sort := sortOf query.sort, collation := query.collation }
      ((session.store.documents name).filter test) = _ :=
    sorted_sortFields hdistinct rfl _
  rw [answer_eq query hfaults, hoptions, Collection.matching_of_total hfilter]
  show Except.ok (Page.mk _ (FindOptions.sorted _ _)) = _
  rw [hsorted]

/-- Take a query for whole documents without a window, whose sort keys name different fields.  If its
filter evaluates on all documents of the collection, and no value that it sorts by is a double which
is no number, its rows are the documents that match, none of which belongs behind a later one, and
those that no field tells apart are in the order of insertion.  Case is ignored if the strength of
the collation is a whole number up to two, and not otherwise. -/
theorem rows_sorted {session : Session} (hfaults : session.faults = .none) (name : String)
    {query : Query} (hstart : query.start = 0) (hlimit : query.limit = 0)
    (hincluded : query.included = []) (hexcluded : query.excluded = [])
    (hdistinct : (Document.names query.sortFields).Nodup) {test : Document → Bool}
    (hfilter : ∀ document ∈ session.store.documents name,
      Filter.accepts document query.filter = .ok (test document))
    (hnumbers : ∀ document ∈ (session.store.documents name).filter test,
      ∀ field ∈ query.sortFields, (keyAt document field.1).isNaN = false) :
    ∃ (ignoreCase : Bool) (rows : List Document),
      (ignoreCase = true ↔ HasLowStrength query.collation) ∧
      query.answer session name = .ok ⟨((session.store.documents name).filter test).length, rows⟩ ∧
      rows.Perm ((session.store.documents name).filter test) ∧
      rows.Pairwise (NotAfter ignoreCase query.sortFields) ∧
      ∀ document,
        rows.filter (fun row => Tied ignoreCase query.sortFields document row) =
          ((session.store.documents name).filter test).filter fun row =>
            Tied ignoreCase query.sortFields document row := by
  refine ⟨ignoresCase query.collation, _, ignoresCase_iff query.collation,
    answer_whole hfaults name hstart hlimit hincluded hexcluded hdistinct hfilter, ?_, ?_, ?_⟩
  · exact List.mergeSort_perm _ _
  · exact pairwise_sortDocuments hnumbers
  · exact filter_sortDocuments hnumbers

/-- A collection of visitors, two of whom differ in the case of their names only. -/
def visitors : List Document :=
  [[(idField, .int32 1), ("name", .string "Eve"), ("age", .int32 25)],
    [(idField, .int32 2), ("name", .string "Cid"), ("age", .int32 40)],
    [(idField, .int32 3), ("name", .string "eVe"), ("age", .int64 25)],
    [(idField, .int32 4), ("name", .string "Ann"), ("age", .int32 12)],
    [(idField, .int32 5), ("age", .int32 25)]]

/-- The adults among them, by descending name without regard to case. -/
def byName : Query :=
  { filter := [("age", .document [("$gte", .int32 18)])], sort := ["-name", " ", "age"]
    collation := some [("locale", .string "en"), ("strength", .int32 2)] }

/-- A store with these visitors. -/
def visitorSession : Session :=
  ((Session.mk { database := "db", ids := ⟨⟨0⟩, 0⟩ } [] .none).on "visitors"
    (Action.insert visitors)).2

/-- The statement for this query. -/
theorem rows_sorted_visitors :
    ∃ rows : List Document, byName.answer visitorSession "visitors" = .ok ⟨4, rows⟩ ∧
      rows.Pairwise (NotAfter true byName.sortFields) ∧
      rows.filter (fun row => Tied true byName.sortFields visitors[0] row) =
        [visitors[0], visitors[2]] := by
  have hstored : visitorSession.store.documents "visitors" = visitors := by rfl
  have hfilter : ∀ document ∈ visitorSession.store.documents "visitors",
      Filter.accepts document byName.filter =
        .ok ((Filter.accepts document byName.filter).toOption.getD false) := by
    rw [hstored]
    simp only [visitors, List.forall_mem_cons]
    exact ⟨by rfl, by rfl, by rfl, by rfl, by rfl, nofun⟩
  obtain ⟨ignoreCase, rows, hfolds, hanswer, -, hsorted, hties⟩ :=
    @rows_sorted visitorSession rfl "visitors" byName rfl rfl rfl rfl (by decide) _ hfilter
      (by rw [hstored]; decide)
  obtain rfl : ignoreCase = true := hfolds.2 ⟨_, rfl, .inl ⟨2, rfl, by decide⟩⟩
  refine ⟨rows, ?_, hsorted, ?_⟩
  · rw [hanswer]
    rfl
  · rw [hties visitors[0], hstored]
    rfl

end Table.Query

end VersionedStore
