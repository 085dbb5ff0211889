import VersionedStore.Proofs.Collection.Insertion
import VersionedStore.Proofs.Store.Uniqueness

/-!
# What failed calls leave

A call on a collection may fail after it has brought the collection into being, found a position or
built a document.  The changes to indexes and the replacement of a document do nothing then: the one
call that can bring a collection into being without inserting, the creation of an index, does not
fail on it.  Only an insertion keeps what it has done before it failed.

* `Action.createIndex_error`, `Action.dropIndex_error`, `Action.replace_error`: such a call leaves
  its handle with one more call in the log.
* `Session.store_on_of_logged`: which is nothing to the store.
* `Action.insert_error`: an insertion has stored the documents before the first that collides.
* `Session.failed_calls`: all four together.
-/

set_option autoImplicit false

namespace VersionedStore

namespace Action

/-- An index can always be created on a collection that has just come into being. -/
theorem createIndex_empty_ne_error (space name : String) (definition : IndexDefinition)
    (error : Error) : Collection.createIndex space {} name definition ≠ .error error := by
  unfold Collection.createIndex
  have hnone : ({} : Collection).indexes.get? name = none := NameMap.get?_empty name
  simp [hnone, Collection.collidesWithin]

/-- An index that cannot be created leaves the collection as it was. -/
theorem createIndex_error {handle after : Handle} {definition : IndexDefinition} {name : String}
    {error : Error}
    (h : (createIndex definition name).outcome handle = (.error error, after)) :
    after = handle.logged (.createIndex name) := by
  unfold createIndex at h
  rw [outcome_perform] at h
  split at h
  · exact (congrArg Prod.snd h).symm
  · split at h
    · exact (congrArg Prod.snd h).symm
    · simp only [Handle.logged_content, Handle.logged_space] at h
      cases hcontent : handle.content with
      | none =>
        rw [hcontent, Option.getD_none] at h
        split at h
        · rename_i failure hfailure
          exact absurd hfailure (createIndex_empty_ne_error _ _ _ failure)
        · simp at h
      | some collection =>
        rw [hcontent, Option.getD_some] at h
        split at h
        · obtain ⟨-, rfl⟩ := Prod.mk.inj h
          unfold Handle.logged
          rw [← hcontent]
        · simp at h

/-- A drop that fails leaves the collection as it was. -/
theorem dropIndex_error {handle after : Handle} {name : String} {error : Error}
    (h : (dropIndex name).outcome handle = (.error error, after)) :
    after = handle.logged (.dropIndex name) := by
  unfold dropIndex at h
  rw [outcome_perform] at h
  split at h
  · exact (congrArg Prod.snd h).symm
  · split at h
    · exact (congrArg Prod.snd h).symm
    · split at h
      · exact (congrArg Prod.snd h).symm
      · simp at h

/-- A replacement that fails leaves the collection as it was. -/
theorem replace_error {handle after : Handle} {filter replacement : Document} {error : Error}
    (h : (replace filter replacement).outcome handle = (.error error, after)) :
    after = handle.logged .replace := by
  unfold replace at h
  rw [outcome_perform] at h
  split at h
  · exact (congrArg Prod.snd h).symm
  · split at h
    · simp at h
    · split at h
      · exact (congrArg Prod.snd h).symm
      · simp at h

/-- Without faults, an insertion that fails has stored the documents before the first one that
collides with those that stand there then. -/
theorem insert_error {handle after : Handle} {documents : List Document} {error : Error}
    (hfaults : handle.faults = .none)
    (h : (insert documents).outcome handle = (.error error, after)) :
    ∃ before document behind stored refused, documents = before ++ document :: behind ∧
      List.Forall₂ StoredAs before stored ∧ StoredAs document refused ∧
      (∀ front placed back, stored = front ++ placed :: back →
        ¬ Collection.Collides handle.indexes (handle.documents ++ front) placed) ∧
      Collection.Collides handle.indexes (handle.documents ++ stored) refused ∧
      after.content = some { handle.content.getD {} with
        documents := handle.documents ++ stored } := by
  rw [handle.documents_eq, handle.indexes_eq]
  obtain ⟨before, behind, stored, ids', hsplit, hstored, hfree, -, hleft, hend⟩ :=
    Collection.insertAll_cases handle.space handle.ids (handle.content.getD {}) documents
  rw [outcome_insert_none documents hfaults] at h
  obtain ⟨hresult, rfl⟩ := Prod.mk.inj h
  rcases hend with ⟨-, hok⟩ | ⟨document, rest, refused, index, hbehind, hrefused, hclash, -⟩
  · rw [hok] at hresult
    simp at hresult
  · rw [hbehind] at hsplit
    refine ⟨before, document, rest, stored, refused, hsplit, hstored, hrefused, hfree,
      Collection.collides_of_clash? hclash, ?_⟩
    rw [hleft]

end Action

namespace Session

/-- An action that only logs a call leaves the store as it was. -/
theorem store_on_of_logged {α : Type} {session : Session} {name : String} {action : Action α}
    {operation : Operation}
    (h : (action.outcome (session.handle name)).2 = (session.handle name).logged operation) :
    (session.on name action).2.store = session.store := by
  have hsame : session.adopt name ((session.handle name).logged operation) =
      { session with calls := ((session.handle name).logged operation).calls } :=
    adopt_calls session name _
  rw [on_eq, h, hsame]

/-- Whatever the store, and whatever the arguments: an index that cannot be created or dropped and a
replacement that fails leave the store as it was, with all its collections, their documents, indexes
and events.  An insertion that fails leaves its collection, which has then come into being, with the
documents it had and behind them those of the batch before the first that collides, each with its
identity, which stands in front if it was generated; the indexes and the events of the collection
and all other collections are as they were. -/
theorem failed_calls {session : Session} (hfaults : session.faults = .none) (name : String) :
    (∀ definition index error,
      (session.on name (Action.createIndex definition index)).1 = .error error →
      (session.on name (Action.createIndex definition index)).2.store = session.store) ∧
    (∀ index error, (session.on name (Action.dropIndex index)).1 = .error error →
      (session.on name (Action.dropIndex index)).2.store = session.store) ∧
    (∀ filter replacement error,
      (session.on name (Action.replace filter replacement)).1 = .error error →
      (session.on name (Action.replace filter replacement)).2.store = session.store) ∧
    ∀ documents error, (session.on name (Action.insert documents)).1 = .error error →
      ∃ before document behind stored refused, documents = before ++ document :: behind ∧
        List.Forall₂ StoredAs before stored ∧ StoredAs document refused ∧
        (∀ front placed back, stored = front ++ placed :: back →
          ¬ Collection.Collides (session.store.indexes name)
            (session.store.documents name ++ front) placed) ∧
        Collection.Collides (session.store.indexes name)
          (session.store.documents name ++ stored) refused ∧
        ∀ other, (session.on name (Action.insert documents)).2.store.collections.get? other =
          if other = name then
            some { documents := session.store.documents name ++ stored
                   indexes := session.store.indexes name
                   events := session.store.events name }
          else session.store.collections.get? other := by
  refine ⟨?_, ?_, ?_, ?_⟩
  · intro definition index error herror
    exact store_on_of_logged (Action.createIndex_error (Prod.ext herror rfl))
  · intro index error herror
    exact store_on_of_logged (Action.dropIndex_error (Prod.ext herror rfl))
  · intro filter replacement error herror
    exact store_on_of_logged (Action.replace_error (Prod.ext herror rfl))
  · intro documents error herror
    have hrun : (session.handle name).faults = .none := hfaults
    obtain ⟨before, document, behind, stored, refused, hsplit, hstored, hrefused, hfree, hcollides,
      hcontent⟩ := Action.insert_error hrun (Prod.ext herror rfl)
    refine ⟨before, document, behind, stored, refused, hsplit, hstored, hrefused, hfree, hcollides,
      ?_⟩
    intro other
    rw [get?_on, hcontent, Option.some_or]
    have hcollection : ({ (session.handle name).content.getD {} with
        documents := (session.handle name).documents ++ stored } : Collection) =
        { documents := session.store.documents name ++ stored
          indexes := session.store.indexes name
          events := session.store.events name } := by
      show ({ (session.store.collections.get? name).getD {} with
        documents := session.store.documents name ++ stored } : Collection) = _
      unfold Store.indexes Store.events
      cases session.store.collections.get? name <;> rfl
    rw [hcollection]

/-- The statement where each of the four calls is refused, the insertion at its second document. -/
theorem failed_calls_refused :
    let session : Session := { store := Store.refusedStore }
    let differing := Action.createIndex { keys := [("slug", .int32 1)] } "slug-1"
    let missing := Action.dropIndex "slug-2"
    let taken := Action.replace [("slug", .string "b")] [("slug", .string "a")]
    let batch := [[("slug", .string "d")], [(idField, .int64 1)], [("slug", .string "e")]]
    ((session.on "articles" differing).1 =
        .error (.backend (.indexDiffers "slug-1" "db.articles")) ∧
      (session.on "articles" differing).2.store = session.store) ∧
    ((session.on "articles" missing).1 =
        .error (.backend (.indexMissing "slug-2" "db.articles")) ∧
      (session.on "articles" missing).2.store = session.store) ∧
    ((session.on "articles" taken).1 = .error (.duplicateKey "db.articles" "slug-1") ∧
      (session.on "articles" taken).2.store = session.store) ∧
    (session.on "articles" (Action.insert batch)).1 =
        .error (.duplicateKey "db.articles" primaryIndex) ∧
      ∃ before document behind stored, batch = before ++ document :: behind ∧
        List.Forall₂ StoredAs before stored ∧
        (session.on "articles" (Action.insert batch)).2.store.documents "articles" =
          session.store.documents "articles" ++ stored := by
  intro session differing missing taken batch
  obtain ⟨hcreate, hdrop, hreplace, hinsert⟩ := @failed_calls session rfl "articles"
  have hdiffering : (session.on "articles" differing).1 =
      .error (.backend (.indexDiffers "slug-1" "db.articles")) := by rfl
  have hmissing : (session.on "articles" missing).1 =
      .error (.backend (.indexMissing "slug-2" "db.articles")) := by rfl
  have htaken : (session.on "articles" taken).1 =
      .error (.duplicateKey "db.articles" "slug-1") := by rfl
  have hbatch : (session.on "articles" (Action.insert batch)).1 =
      .error (.duplicateKey "db.articles" primaryIndex) := by rfl
  obtain ⟨before, document, behind, stored, -, hsplit, hstored, -, -, -, hleft⟩ :=
    hinsert batch _ hbatch
  refine ⟨⟨hdiffering, hcreate _ _ _ hdiffering⟩, ⟨hmissing, hdrop _ _ hmissing⟩,
    ⟨htaken, hreplace _ _ _ htaken⟩, hbatch, before, document, behind, stored, hsplit, hstored, ?_⟩
  unfold Store.documents
  rw [hleft "articles", if_pos rfl]
  rfl

end Session

end VersionedStore
