import VersionedStore.Proofs.Collection.Writes
import VersionedStore.Proofs.Store.Reachable
import VersionedStore.Proofs.Value.Equality
import Mathlib.Data.List.Pairwise

/-!
# Uniqueness in a store

Every document of a reachable store has an identity, and no two documents of a collection are
the same to the index on the identifying field or to a unique index.  Three places see to this:
the check of a write against the documents that stay, the check of a new unique index against
all documents, and the identity that a write keeps or adds.

* `Collection.Consistent`: the invariant of a collection.
* `Collection.Consistent.put`: a document that passes the check may stand at any position.
* `Collection.consistent_invariant`: every operation keeps the invariant.
* `Store.Reachable.documents_distinct`: what it says of any two documents of a reachable store.
-/

set_option autoImplicit false

namespace VersionedStore

/-- Two documents have the same identity in either order. -/
theorem sameId_comm (a b : Document) : sameId a b = sameId b a := by
  unfold sameId
  cases Document.get? a idField with
  | none => cases Document.get? b idField <;> rfl
  | some id =>
    cases Document.get? b idField with
    | none => rfl
    | some other => exact id.looselyEquals_comm other

/-- An index holds two documents to be the same in either order. -/
theorem IndexDefinition.collide_comm (definition : IndexDefinition) (a b : Document) :
    definition.collide a b = definition.collide b a := by
  unfold collide
  cases definition.keyOf a with
  | none => cases definition.keyOf b <;> rfl
  | some key =>
    cases definition.keyOf b with
    | none => rfl
    | some other => exact Comparand.equals_comm key other

/-- A symmetric relation that fails between earlier and later documents fails between the
documents at any two positions. -/
theorem false_at_of_pairwise {R : Document → Document → Bool} (hcomm : ∀ a b, R a b = R b a)
    {documents : List Document} (hpairwise : documents.Pairwise fun a b => R a b = false)
    {i j : ℕ} {a b : Document} (hne : i ≠ j) (ha : documents[i]? = some a)
    (hb : documents[j]? = some b) : R a b = false := by
  obtain ⟨hi, rfl⟩ := List.getElem?_eq_some_iff.1 ha
  obtain ⟨hj, rfl⟩ := List.getElem?_eq_some_iff.1 hb
  rw [List.pairwise_iff_getElem] at hpairwise
  rcases Nat.lt_or_gt_of_ne hne with hlt | hgt
  · exact hpairwise i j hi hj hlt
  · rw [hcomm]
    exact hpairwise j i hj hi hgt

namespace Collection

/-- Every document has an identity, and no unique index holds two documents to be the same. -/
structure Consistent (collection : Collection) : Prop where
  identified : ∀ document ∈ collection.documents, Document.contains document idField = true
  ids_differ : collection.documents.Pairwise fun a b => sameId a b = false
  keys_differ : ∀ name definition, collection.indexes.get? name = some definition →
    definition.unique = true →
    collection.documents.Pairwise fun a b => definition.collide a b = false

namespace Consistent

/-- Taking documents away keeps a collection consistent. -/
theorem of_sublist {collection : Collection} (h : collection.Consistent)
    {documents : List Document} (hsub : documents.Sublist collection.documents) :
    Consistent { collection with documents := documents } where
  identified document hdocument := h.identified document (hsub.subset hdocument)
  ids_differ := h.ids_differ.sublist hsub
  keys_differ name definition hindex hunique :=
    (h.keys_differ name definition hindex hunique).sublist hsub

/-- A document with an identity that may stand beside the others may stand at any position. -/
theorem put {collection : Collection} {before behind : List Document} {stored : Document}
    {space : String}
    (h : Consistent { collection with documents := before ++ behind })
    (hidentified : Document.contains stored idField = true)
    (hunique : checkUnique space collection.indexes (before ++ behind) stored = .ok ()) :
    Consistent { collection with documents := before ++ stored :: behind } := by
  obtain ⟨hids, hkeys⟩ := (checkUnique_eq_ok_iff _ _ _ _).1 hunique
  refine ⟨?_, ?_, ?_⟩
  · intro document hdocument
    rcases List.mem_append.1 hdocument with hbefore | hbehind
    · exact h.identified document (List.mem_append_left _ hbefore)
    · rcases List.mem_cons.1 hbehind with rfl | hbehind
      · exact hidentified
      · exact h.identified document (List.mem_append_right _ hbehind)
  · rw [List.pairwise_middle fun {a b} hab => (sameId_comm b a).trans hab]
    exact List.pairwise_cons.2 ⟨hids, h.ids_differ⟩
  · intro name definition hindex hdefinition
    rw [List.pairwise_middle fun {a b} hab => (definition.collide_comm b a).trans hab]
    exact List.pairwise_cons.2 ⟨hkeys name definition hindex hdefinition,
      h.keys_differ name definition hindex hdefinition⟩

/-- Inserting documents keeps a collection consistent, however far it comes. -/
theorem insertAll {space : String} {ids : IdSource} {collection : Collection}
    (documents : List Document) (h : collection.Consistent) :
    (Collection.insertAll space ids collection documents).2.2.Consistent := by
  induction documents generalizing ids collection with
  | nil => exact h
  | cons document rest ih =>
    unfold Collection.insertAll
    simp only
    split
    · exact h
    · rename_i hunique
      refine ih ?_
      have hbefore : Consistent { collection with documents := collection.documents ++ [] } := by
        simpa using h
      exact put hbefore (contains_withId (.objectId ids.nextId) document)
        (by simpa using hunique)

/-- Replacing a document keeps a collection consistent. -/
theorem replaceFirst {space : String} {collection collection' : Collection}
    {filter replacement : Document} {replaced : Nat} (h : collection.Consistent)
    (hreplaced : Collection.replaceFirst space collection filter replacement =
      .ok (replaced, collection')) : collection'.Consistent := by
  rcases replaceFirst_eq_ok hreplaced with
    ⟨-, rfl⟩ | ⟨before, current, behind, stored, hsplit, hstored, hunique, -, rfl⟩
  · exact h
  · obtain ⟨hdocuments, -, -⟩ := splitAtFirst_eq_some hsplit
    have hcurrent : Document.contains current idField = true :=
      h.identified current (by simp [hdocuments])
    refine put (h.of_sublist ?_) (contains_of_keepId hcurrent hstored) hunique
    rw [hdocuments]
    exact List.Sublist.append_left (List.sublist_cons_self current behind) before

/-- An index that holds no two documents of a list to be the same. -/
theorem pairwise_of_collidesWithin {definition : IndexDefinition} {documents : List Document}
    (h : collidesWithin definition documents = false) :
    documents.Pairwise fun a b => definition.collide a b = false := by
  induction documents with
  | nil => exact List.Pairwise.nil
  | cons document rest ih =>
    unfold collidesWithin at h
    obtain ⟨hfirst, hrest⟩ := Bool.or_eq_false_iff.1 h
    refine List.pairwise_cons.2 ⟨fun other hother => ?_, ih hrest⟩
    exact Bool.eq_false_iff.2 (List.any_eq_false.1 hfirst other hother)

/-- Creating an index keeps a collection consistent. -/
theorem createIndex {space name : String} {collection collection' : Collection}
    {definition : IndexDefinition} (h : collection.Consistent)
    (hcreated : Collection.createIndex space collection name definition = .ok collection') :
    collection'.Consistent := by
  rcases createIndex_eq_ok hcreated with ⟨_, -, -, rfl⟩ | ⟨-, hfits, rfl⟩
  · exact h
  · refine ⟨h.identified, h.ids_differ, ?_⟩
    intro other found hfound hunique
    rw [NameMap.get?_insert] at hfound
    split at hfound
    · obtain rfl := Option.some.inj hfound
      exact pairwise_of_collidesWithin (hfits hunique)
    · exact h.keys_differ other found hfound hunique

/-- Dropping an index keeps a collection consistent. -/
theorem dropIndex {space name : String} {collection collection' : Collection}
    (h : collection.Consistent)
    (hdropped : Collection.dropIndex space collection name = .ok collection') :
    collection'.Consistent := by
  obtain ⟨-, rfl⟩ := dropIndex_eq_ok_iff.1 hdropped
  refine ⟨h.identified, h.ids_differ, ?_⟩
  intro other found hfound hunique
  rw [NameMap.get?_erase] at hfound
  split at hfound
  · simp at hfound
  · exact h.keys_differ other found hfound hunique

end Consistent

/-- Every operation on a collection keeps it consistent. -/
theorem consistent_invariant : Invariant Consistent where
  empty := ⟨by simp, List.Pairwise.nil, by simp⟩
  insertAll _ _ _ documents h := h.insertAll documents
  replaceFirst h hreplaced := h.replaceFirst hreplaced
  createIndex h _ hcreated := h.createIndex hcreated
  dropIndex h hdropped := h.dropIndex hdropped

end Collection

namespace Store

/-- Every collection of a reachable store is consistent. -/
theorem Reachable.consistent {store : Store} (hstore : store.Reachable) {name : String}
    {collection : Collection} (hcollection : store.collections.get? name = some collection) :
    collection.Consistent :=
  hstore.holds Collection.consistent_invariant hcollection

/-- In a reachable store every document has an identity; and at two positions of a collection
stand no two documents with equal identities, nor two with equal keys in a unique index. -/
theorem Reachable.documents_distinct {store : Store} (hstore : store.Reachable) {name : String}
    {collection : Collection} (hcollection : store.collections.get? name = some collection) :
    (∀ document ∈ collection.documents, ∃ id, Document.get? document idField = some id) ∧
    ∀ (i j : ℕ) (a b : Document), i ≠ j → collection.documents[i]? = some a →
      collection.documents[j]? = some b →
      (∀ id other, Document.get? a idField = some id → Document.get? b idField = some other →
        id.looselyEquals other = false) ∧
      ∀ index definition, collection.indexes.get? index = some definition →
        definition.unique = true →
        ∀ key other, definition.keyOf a = some key → definition.keyOf b = some other →
          key.equals other = false := by
  have hconsistent := hstore.consistent hcollection
  refine ⟨?_, ?_⟩
  · intro document hdocument
    exact Option.isSome_iff_exists.1 (hconsistent.identified document hdocument)
  · intro i j a b hne ha hb
    refine ⟨?_, ?_⟩
    · intro id other hid hother
      have hdiffer := false_at_of_pairwise sameId_comm hconsistent.ids_differ hne ha hb
      simpa only [sameId, hid, hother] using hdiffer
    · intro index definition hindex hunique key other hkey hother
      have hdiffer := false_at_of_pairwise definition.collide_comm
        (hconsistent.keys_differ index definition hindex hunique) hne ha hb
      simpa only [IndexDefinition.collide, hkey, hother] using hdiffer

/-! ### A store after refused writes -/

/-- A unique index on the field `slug`. -/
def slugIndex : IndexDefinition := { keys := [("slug", .int32 1)], unique := true }

/-- Changes of which the third stops half way, at an identity that is taken as another type of
number, and the fourth is refused by the unique index. -/
def refusedChanges : List Change :=
  [.insert "articles" [[(idField, .int32 1), ("slug", .string "a")], [("slug", .string "b")]],
    .createIndex "articles" slugIndex "slug-1",
    .insert "articles" [[("slug", .string "c")], [(idField, .int64 1)]],
    .replace "articles" [("slug", .string "b")] [("slug", .string "a")]]

/-- The store after these changes. -/
def refusedStore : Store :=
  (refusedChanges.foldl Change.run { store := { database := "db", ids := ⟨⟨0⟩, 0⟩ } }).store

/-- What these changes leave in the collection. -/
def refusedArticles : Collection where
  documents :=
    [[(idField, .int32 1), ("slug", .string "a")],
      [(idField, .objectId ⟨1⟩), ("slug", .string "b")],
      [(idField, .objectId ⟨2⟩), ("slug", .string "c")]]
  indexes := (∅ : NameMap IndexDefinition).insert "slug-1" slugIndex
  events := [.created "slug-1"]

/-- The statement after refused writes, for the two documents with identities of the store. -/
theorem Reachable.documents_distinct_after_refusals :
    refusedStore.Reachable ∧
      refusedStore.collections.get? "articles" = some refusedArticles ∧
      (Value.objectId ⟨1⟩).looselyEquals (.objectId ⟨2⟩) = false ∧
      (Comparand.array [.string "b"]).equals (.array [.string "c"]) = false := by
  have hreachable : refusedStore.Reachable :=
    Reachable.foldl_run refusedChanges (Reachable.fresh "db" ⟨⟨0⟩, 0⟩)
  have harticles : refusedStore.collections.get? "articles" = some refusedArticles := by rfl
  obtain ⟨hids, hkeys⟩ :=
    (hreachable.documents_distinct harticles).2 1 2 _ _ (by decide) rfl rfl
  exact ⟨hreachable, harticles, hids _ _ rfl rfl,
    hkeys "slug-1" slugIndex rfl rfl _ _ rfl rfl⟩

end Store

end VersionedStore
