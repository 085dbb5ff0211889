import VersionedStore.Collection
import VersionedStore.Proofs.Filter.Integers
import VersionedStore.Proofs.Version.Selection
import Mathlib.Data.List.Basic

/-!
# Rewriting the older documents of a list from its front

A migration goes through a list of documents and puts an image in the place of each older one.
Wherever it stops, the documents up to that point have been dealt with and those behind it have
not, and starting again on what it leaves goes on from there.

* `Rewrite`: what takes older documents to the target version.
* `Rewrite.marking`: setting nothing but the marker is one way.
* `Rewrite.Advances`: some documents at the front have been dealt with, and the older ones of
  these are what has been written.
* `Rewrite.Advances.trans`: two stretches are one, since images are not older.
* `Rewrite.Advances.eq_of_done`: when no older document is left, all have been written.
-/

set_option autoImplicit false

namespace VersionedStore

/-- Where the field `meta` is a document with a marker only, the path of versions leads to it. -/
theorem Document.at?_versionPath_set (document : Document) (marker : Value) :
    Document.at? (Document.set document "meta" (.document [("version", marker)])) versionPath =
      some marker := by
  have hnames : pathNames versionPath = ["meta", "version"] := by decide
  unfold Document.at?
  rw [hnames]
  simp [Value.descend, Document.get?_set_self, Document.get?_cons]

/-- An integer stands in no strict order to itself. -/
theorem Condition.ordered_int64_self {accept : Ordering → Bool} (haccept : accept .eq = false)
    (i : Int64) : ordered accept (some (.int64 i)) (.int64 i) = false := by
  rw [ordered_int64, compare_eq_iff_eq.2 rfl, haccept]

/-- Images of documents at a version: with the same identity, and neither below nor above the
version. -/
structure Rewrite (target : Int64) where
  image : Document → Document
  keeps_id : ∀ document, Document.get? (image document) idField = Document.get? document idField
  not_older : ∀ document, Filter.accepts (image document) (lowerVersions target) = .ok false
  not_newer : ∀ document, Filter.accepts (image document) (higherVersions target) = .ok false

namespace Rewrite

variable {target : Int64}

/-- The images that only have the marker of the version set. -/
def marking (target : Int64) : Rewrite target where
  image document := Document.set document "meta" (.document [("version", .int64 target)])
  keeps_id document := Document.get?_set_of_ne document _ (by decide)
  not_older document := by
    rw [accepts_lowerVersions_eq, Document.at?_versionPath_set]
    rw [Condition.ordered_int64_self (by rfl)]
    rfl
  not_newer document := by
    rw [higherVersions, Filter.accepts_singleton, Filter.fieldAccepts_path (by decide),
      Document.at?_versionPath_set]
    have hmap : Condition.isOperatorMap [("$gt", Value.int64 target)] = true := by rfl
    simp only [Condition.holds, hmap, if_true, Condition.allHold, Condition.operatorHolds]
    rw [Condition.ordered_int64_self (by rfl)]

/-- What a migration makes of a document: its image if it is older, and itself if not. -/
def apply (rewrite : Rewrite target) (document : Document) : Document :=
  if isOlder target document then rewrite.image document else document

/-- An image is not below the version. -/
theorem isOlder_image (rewrite : Rewrite target) (document : Document) :
    isOlder target (rewrite.image document) = false := by
  have himage := rewrite.not_older document
  rw [accepts_lowerVersions] at himage
  exact Except.ok.inj himage

/-- A document below the version is rewritten to its image. -/
theorem apply_of_older (rewrite : Rewrite target) {document : Document}
    (h : isOlder target document = true) : rewrite.apply document = rewrite.image document :=
  if_pos h

/-- A document that is not below the version stays as it is. -/
theorem apply_of_not_older (rewrite : Rewrite target) {document : Document}
    (h : isOlder target document = false) : rewrite.apply document = document :=
  if_neg (by rw [h]; exact Bool.false_ne_true)

/-- What has been rewritten is not below the version. -/
theorem isOlder_apply (rewrite : Rewrite target) (document : Document) :
    isOlder target (rewrite.apply document) = false := by
  cases h : isOlder target document with
  | true => rw [rewrite.apply_of_older h, rewrite.isOlder_image]
  | false => rw [rewrite.apply_of_not_older h, h]

/-- Rewriting keeps identities. -/
theorem get?_apply (rewrite : Rewrite target) (document : Document) :
    Document.get? (rewrite.apply document) idField = Document.get? document idField := by
  unfold apply
  split
  · exact rewrite.keeps_id document
  · rfl

/-- Documents of which none is below the version stay as they are. -/
theorem map_apply_of_not_older (rewrite : Rewrite target) {documents : List Document}
    (h : ∀ document ∈ documents, isOlder target document = false) :
    documents.map rewrite.apply = documents := by
  rw [List.map_congr_left fun document hdocument =>
    rewrite.apply_of_not_older (h document hdocument)]
  exact List.map_id' documents

/-- Among documents none of which is older, none is selected. -/
theorem filter_of_not_older {documents : List Document}
    (h : ∀ document ∈ documents, isOlder target document = false) :
    documents.filter (isOlder target) = [] :=
  List.filter_eq_nil_iff.2 fun document hdocument => by simp [h document hdocument]

/-- No document that has been rewritten is below the version. -/
theorem not_older_of_mem_map (rewrite : Rewrite target) {documents : List Document} :
    ∀ document ∈ documents.map rewrite.apply, isOlder target document = false := by
  intro document hdocument
  obtain ⟨original, -, rfl⟩ := List.mem_map.1 hdocument
  exact rewrite.isOlder_apply original

/-- Some documents at the front of `before` have been dealt with in `after`, and the older ones
among them are `written`. -/
def Advances (rewrite : Rewrite target) (before after written : List Document) : Prop :=
  ∃ done left, before = done ++ left ∧ after = done.map rewrite.apply ++ left ∧
    written = done.filter (isOlder target)

namespace Advances

variable {rewrite : Rewrite target}

/-- Before anything is written, nothing has been dealt with. -/
theorem refl (documents : List Document) : rewrite.Advances documents documents [] :=
  ⟨[], documents, rfl, rfl, rfl⟩

/-- Putting the image in the place of the first older document deals with the documents up to
it. -/
theorem single {before behind : List Document} {document : Document}
    (hbefore : ∀ other ∈ before, isOlder target other = false)
    (hdocument : isOlder target document = true) :
    rewrite.Advances (before ++ document :: behind)
      (before ++ rewrite.image document :: behind) [document] := by
  refine ⟨before ++ [document], behind, by simp, ?_, ?_⟩
  · rw [List.map_append, rewrite.map_apply_of_not_older hbefore]
    simp [rewrite.apply_of_older hdocument]
  · simp [filter_of_not_older hbefore, hdocument]

/-- Two stretches one after the other are one stretch. -/
theorem trans {before middle after first second : List Document}
    (h : rewrite.Advances before middle first) (h' : rewrite.Advances middle after second) :
    rewrite.Advances before after (first ++ second) := by
  obtain ⟨done, left, rfl, rfl, rfl⟩ := h
  obtain ⟨done', left', hmiddle, rfl, rfl⟩ := h'
  have hfinished : ∀ document ∈ done.map rewrite.apply, isOlder target document = false :=
    rewrite.not_older_of_mem_map
  rcases List.append_eq_append_iff.1 hmiddle with
    ⟨further, rfl, rfl⟩ | ⟨rest, hdone, rfl⟩
  · -- The second stretch goes beyond the first by `further`.
    refine ⟨done ++ further, left', by simp, ?_, ?_⟩
    · rw [List.map_append, List.map_append, rewrite.map_apply_of_not_older hfinished]
    · simp [List.filter_append, filter_of_not_older hfinished]
  · -- The second stretch stays within the first, where nothing is older any more.
    have hwithin : ∀ document ∈ done', isOlder target document = false :=
      fun document hdocument => hfinished document
        (hdone ▸ List.mem_append_left _ hdocument)
    refine ⟨done, left, rfl, ?_, by simp [filter_of_not_older hwithin]⟩
    rw [rewrite.map_apply_of_not_older hwithin, ← List.append_assoc, ← hdone]

/-- What is written and what is left to write are the older documents, in their order. -/
theorem written_append_left {before after written : List Document}
    (h : rewrite.Advances before after written) :
    written ++ after.filter (isOlder target) = before.filter (isOlder target) := by
  obtain ⟨done, left, rfl, rfl, rfl⟩ := h
  rw [List.filter_append, List.filter_append,
    filter_of_not_older rewrite.not_older_of_mem_map, List.nil_append]

/-- When no older document is left, every one has been written in its place. -/
theorem eq_of_done {before after written : List Document}
    (h : rewrite.Advances before after written)
    (hdone : after.filter (isOlder target) = []) :
    after = before.map rewrite.apply ∧ written = before.filter (isOlder target) := by
  have hwritten := h.written_append_left
  rw [hdone, List.append_nil] at hwritten
  refine ⟨?_, hwritten⟩
  obtain ⟨done, left, rfl, rfl, rfl⟩ := h
  have hleft : ∀ document ∈ left, isOlder target document = false := by
    intro document hdocument
    have hnot := List.filter_eq_nil_iff.1 hdone document (List.mem_append_right _ hdocument)
    simpa using hnot
  rw [List.map_append, rewrite.map_apply_of_not_older hleft]

/-- Identities stay where they are. -/
theorem map_id_eq {before after written : List Document}
    (h : rewrite.Advances before after written) :
    after.map (fun document => Document.get? document idField) =
      before.map fun document => Document.get? document idField := by
  obtain ⟨done, left, rfl, rfl, rfl⟩ := h
  simp [rewrite.get?_apply]

end Advances

end Rewrite

end VersionedStore
