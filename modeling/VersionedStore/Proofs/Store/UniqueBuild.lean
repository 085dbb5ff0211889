import VersionedStore.Proofs.Collection.Insertion
import VersionedStore.Proofs.Store.Uniqueness

/-!
# A unique index, built before its documents are loaded or after

A unique index is enforced in two ways.  Where it is there, each document that is inserted is
checked against those before it; and where it is built over documents, all pairs of them are
scanned.  Both find the same: loading and building may change places.

* `Collection.collidesWithin_iff`: a scan finds what the checks of the documents in turn find.
* `Collection.clash?_only`: the clashes under one unique index.
* `Session.build_load_agree`: the two orders, from a collection without documents and indexes.
-/

set_option autoImplicit false

namespace VersionedStore

namespace Collection

/-- A scan finds two documents that are the same to an index exactly if some document is the same
as one before it. -/
theorem collidesWithin_iff {definition : IndexDefinition} {documents : List Document} :
    collidesWithin definition documents = true ↔
      ∃ before document behind, documents = before ++ document :: behind ∧
        before.any (definition.collide document) = true := by
  induction documents with
  | nil => simp [collidesWithin]
  | cons first rest ih =>
    unfold collidesWithin
    rw [Bool.or_eq_true, ih]
    constructor
    · rintro (hfirst | ⟨before, document, behind, hrest, hcollides⟩)
      · obtain ⟨document, hdocument, hsame⟩ := List.any_eq_true.1 hfirst
        obtain ⟨before, behind, hrest⟩ := List.append_of_mem hdocument
        refine ⟨first :: before, document, behind, by rw [hrest, List.cons_append], ?_⟩
        rw [List.any_cons, definition.collide_comm document first, hsame, Bool.true_or]
      · refine ⟨first :: before, document, behind, by rw [hrest, List.cons_append], ?_⟩
        rw [List.any_cons, hcollides, Bool.or_true]
    · rintro ⟨before, document, behind, hsplit, hcollides⟩
      cases before with
      | nil => simp at hcollides
      | cons other before =>
        obtain ⟨rfl, hrest⟩ := List.cons.inj hsplit
        rw [List.any_cons, Bool.or_eq_true] at hcollides
        rcases hcollides with hsame | hcollides
        · left
          have hdocument : document ∈ rest := by simp [hrest]
          rw [definition.collide_comm] at hsame
          exact List.any_eq_true.2 ⟨document, hdocument, hsame⟩
        · right
          exact ⟨before, document, behind, hrest, hcollides⟩

/-- Under a single index that is unique, a document whose identity is free clashes if the index
holds it to be the same as another. -/
theorem clash?_only {definition : IndexDefinition} (hunique : definition.unique = true)
    (name : String) {others : List Document} {document : Document}
    (hfree : ∀ other ∈ others, sameId document other = false) :
    clash? ((∅ : NameMap IndexDefinition).insert name definition) others document =
      if others.any (definition.collide document) then some name else none := by
  have hid : others.any (sameId document) = false :=
    List.any_eq_false.2 fun other hother => by simp [hfree other hother]
  have hentries : ((∅ : NameMap IndexDefinition).insert name definition).entries =
      [(name, definition)] := rfl
  unfold clash?
  rw [hid, hentries, if_neg Bool.false_ne_true]
  cases hcollides : others.any (definition.collide document) <;> simp [hunique, hcollides]

/-- Among documents with distinct identities, that of each is free in front of it. -/
theorem free_of_pairwise {before behind documents : List Document} {document : Document}
    (hdiffer : documents.Pairwise fun a b => sameId a b = false)
    (hsplit : documents = before ++ document :: behind) :
    ∀ other ∈ before, sameId document other = false := by
  intro other hother
  rw [sameId_comm]
  exact forall_split_iff_pairwise.2 hdiffer before document behind hsplit other hother

/-- Documents with a single index, which has been created after some events. -/
def withIndex (documents : List Document) (index : String) (definition : IndexDefinition)
    (events : List IndexEvent) : Collection where
  documents := documents
  indexes := (∅ : NameMap IndexDefinition).insert index definition
  events := events ++ [.created index]

variable {space index : String} {ids : IdSource} {events : List IndexEvent}
  {documents : List Document} {definition : IndexDefinition}

/-- Without indexes, documents with distinct identities are all inserted. -/
theorem insertAll_unindexed
    (hidentified : ∀ document ∈ documents, Document.contains document idField = true)
    (hdiffer : documents.Pairwise fun a b => sameId a b = false) :
    insertAll space ids { events := events } documents =
      (.ok (), ids, { documents := documents, events := events }) := by
  have hok : (insertAll space ids { events := events } documents).1 = .ok () := by
    refine (insertAll_eq_ok_iff space ids rfl hidentified).2 ⟨?_, by simp [NameMap.get?_empty]⟩
    exact hdiffer.imp fun hne => by rw [sameId_comm, hne]
  rcases insertAll_identified space ids { events := events } hidentified with
    ⟨-, hinserted⟩ | ⟨before, document, behind, index, -, -, hinserted⟩
  · exact hinserted
  · rw [hinserted] at hok
    simp at hok

/-- Under a single index that is unique, they are inserted if a scan finds no two that are the
same. -/
theorem insertAll_indexed
    (hidentified : ∀ document ∈ documents, Document.contains document idField = true)
    (hdiffer : documents.Pairwise fun a b => sameId a b = false)
    (hunique : definition.unique = true) :
    let run := insertAll space ids (withIndex [] index definition events) documents
    if collidesWithin definition documents then run.1 = .error (.duplicateKey space index)
    else run = (.ok (), ids, withIndex documents index definition events) := by
  intro run
  have hclash : ∀ before document behind, documents = before ++ document :: behind →
      clash? (withIndex [] index definition events).indexes
          ((withIndex [] index definition events).documents ++ before) document =
        if before.any (definition.collide document) then some index else none := by
    intro before document behind hsplit
    exact clash?_only hunique index (free_of_pairwise hdiffer hsplit)
  rcases insertAll_identified space ids (withIndex [] index definition events) hidentified with
    ⟨hnone, hinserted⟩ | ⟨before, document, behind, found, hsplit, hfound, hinserted⟩
  · have hfits : collidesWithin definition documents = false := by
      rw [Bool.eq_false_iff, Ne, collidesWithin_iff]
      rintro ⟨before, document, behind, hsplit, hcollides⟩
      have hfound := hclash before document behind hsplit
      rw [hnone before document behind hsplit, if_pos hcollides] at hfound
      simp at hfound
    rw [hfits, if_neg Bool.false_ne_true]
    exact hinserted
  · rw [hclash before document behind hsplit] at hfound
    split at hfound
    · rename_i hcollides
      obtain rfl := Option.some.inj hfound
      rw [if_pos (collidesWithin_iff.2 ⟨before, document, behind, hsplit, hcollides⟩)]
      exact congrArg Prod.fst hinserted
    · simp at hfound

end Collection

namespace Session

/-- Loads documents and then builds an index over them. -/
def loadThenBuild (documents : List Document) (definition : IndexDefinition) (index : String) :
    Action Unit := do
  Action.insert documents
  Action.createIndex definition index

/-- Builds an index and then loads documents under it. -/
def buildThenLoad (documents : List Document) (definition : IndexDefinition) (index : String) :
    Action Unit := do
  Action.createIndex definition index
  Action.insert documents

variable {handle : Handle} {events : List IndexEvent} {documents : List Document}
  {definition : IndexDefinition} {index : String}

/-- Loading and then building, from a handle without documents and indexes. -/
theorem outcome_loadThenBuild (hfaults : handle.faults = .none)
    (hcontent : handle.content.getD {} = { events := events })
    (hidentified : ∀ document ∈ documents, Document.contains document idField = true)
    (hdiffer : documents.Pairwise fun a b => sameId a b = false)
    (hunique : definition.unique = true) (hindex : index ≠ primaryIndex) :
    let outcome := (loadThenBuild documents definition index).outcome handle
    if Collection.collidesWithin definition documents then
      outcome.1 = .error (.duplicateKey handle.space index)
    else outcome.1 = .ok () ∧
      outcome.2.content = some (.withIndex documents index definition events) := by
  intro outcome
  have hloaded : (Action.insert documents).outcome handle =
      (.ok (), { handle.logged .insert with
        content := some { documents := documents, events := events } }) := by
    rw [Action.outcome_insert_none documents hfaults]
    simp only [hcontent, Collection.insertAll_unindexed hidentified hdiffer]
    rfl
  have houtcome : outcome = _ := Action.outcome_bind_ok hloaded
  have hrun : ({ handle.logged .insert with
      content := some { documents := documents, events := events } } : Handle).faults =
        .none := hfaults
  unfold Action.createIndex at houtcome
  rw [Action.outcome_perform_none _ _ hrun] at houtcome
  simp only [if_neg hindex, Handle.logged_content, Option.getD_some] at houtcome
  unfold Collection.createIndex at houtcome
  simp only [NameMap.get?_empty, hunique, Bool.true_and] at houtcome
  split
  · rename_i hcollides
    rw [houtcome, if_pos hcollides]
    rfl
  · rename_i hfits
    rw [houtcome, if_neg hfits]
    exact ⟨rfl, rfl⟩

/-- Building and then loading, from a handle without documents and indexes. -/
theorem outcome_buildThenLoad (hfaults : handle.faults = .none)
    (hcontent : handle.content.getD {} = { events := events })
    (hidentified : ∀ document ∈ documents, Document.contains document idField = true)
    (hdiffer : documents.Pairwise fun a b => sameId a b = false)
    (hunique : definition.unique = true) (hindex : index ≠ primaryIndex) :
    let outcome := (buildThenLoad documents definition index).outcome handle
    if Collection.collidesWithin definition documents then
      outcome.1 = .error (.duplicateKey handle.space index)
    else outcome.1 = .ok () ∧
      outcome.2.content = some (.withIndex documents index definition events) := by
  intro outcome
  have hbuilt : (Action.createIndex definition index).outcome handle =
      (.ok (), { handle.logged (.createIndex index) with
        content := some (.withIndex [] index definition events) }) := by
    unfold Action.createIndex
    rw [Action.outcome_perform_none _ _ hfaults]
    simp only [if_neg hindex, Handle.logged_content, hcontent]
    unfold Collection.createIndex
    simp only [NameMap.get?_empty, Collection.collidesWithin, Bool.and_false,
      Bool.false_eq_true, if_false]
    rfl
  have houtcome : outcome = _ := Action.outcome_bind_ok hbuilt
  have hrun : ({ handle.logged (.createIndex index) with
      content := some (.withIndex [] index definition events) } : Handle).faults =
        .none := hfaults
  rw [Action.outcome_insert_none documents hrun] at houtcome
  have hinserted := @Collection.insertAll_indexed handle.space index handle.ids events documents
    definition hidentified hdiffer hunique
  split
  · rename_i hcollides
    rw [if_pos hcollides] at hinserted
    rw [houtcome]
    exact hinserted
  · rename_i hfits
    rw [if_neg hfits] at hinserted
    rw [houtcome]
    exact ⟨congrArg Prod.fst hinserted, congrArg (fun run => some run.2.2) hinserted⟩

/-- Take a collection without documents and without indexes, documents with identities that are
pairwise distinct, and a unique index.  Loading the documents and then building the index succeeds
exactly if building the index and then loading the documents does.  The two orders leave the same
documents, indexes and events then; and otherwise each fails at a duplicate key in that index. -/
theorem build_load_agree {session : Session} {collection : String}
    (hfaults : session.faults = .none) (hdocuments : session.store.documents collection = [])
    (hindexes : session.store.indexes collection = ∅)
    (hidentified : ∀ document ∈ documents, Document.contains document idField = true)
    (hdiffer : documents.Pairwise fun a b => sameId a b = false)
    (hunique : definition.unique = true) (hindex : index ≠ primaryIndex) :
    let loaded := session.on collection (loadThenBuild documents definition index)
    let built := session.on collection (buildThenLoad documents definition index)
    (loaded.1 = .ok () ↔ built.1 = .ok ()) ∧
      (loaded.1 = .ok () →
        loaded.2.store.documents collection = documents ∧
        loaded.2.store.collections.get? collection =
          built.2.store.collections.get? collection) ∧
      ∀ error, loaded.1 = .error error ∨ built.1 = .error error →
        error = .duplicateKey (Store.spaceOf session.store.database collection) index := by
  intro loaded built
  have hcontent : (session.handle collection).content.getD {} =
      { events := session.store.events collection } := by
    show (session.store.collections.get? collection).getD {} = _
    unfold Store.documents at hdocuments
    unfold Store.indexes at hindexes
    unfold Store.events
    cases hpresent : session.store.collections.get? collection with
    | none => rfl
    | some content =>
      rw [hpresent] at hdocuments hindexes
      obtain ⟨held, indexes, events⟩ := content
      obtain rfl : held = [] := hdocuments
      obtain rfl : indexes = ∅ := hindexes
      rfl
  have hload := outcome_loadThenBuild hfaults hcontent hidentified hdiffer hunique hindex
  have hbuild := outcome_buildThenLoad hfaults hcontent hidentified hdiffer hunique hindex
  simp only [loaded, built, on_eq]
  split at hload
  · rename_i hcollides
    rw [if_pos hcollides] at hbuild
    rw [hload, hbuild]
    refine ⟨Iff.rfl, by simp, ?_⟩
    rintro error (herror | herror) <;> exact (Except.error.inj herror).symm
  · rename_i hfits
    rw [if_neg hfits] at hbuild
    rw [hload.1, hbuild.1]
    refine ⟨Iff.rfl, fun _ => ⟨?_, ?_⟩, by simp⟩
    · unfold Store.documents
      rw [get?_adopt, if_pos rfl, hload.2]
      rfl
    · rw [get?_adopt, get?_adopt, if_pos rfl, if_pos rfl, hload.2, hbuild.2]

/-- Documents of which the second lacks the indexed field, so that only a sparse index passes over
it, and the third has it as another type of number than the first. -/
def placedDocuments : List Document :=
  [[(idField, .int32 1), ("at", .document [("row", .int32 7)])], [(idField, .string "b")],
    [(idField, .int64 2), ("at", .document [("row", .double ⟨0x401c000000000000⟩)])]]

/-- A sparse unique index on that field. -/
def rowIndex : IndexDefinition :=
  { keys := [("at.row", .int32 1)], unique := true, sparse := true }

/-- The statement for documents that collide, and for those before the one that does. -/
theorem build_load_agree_rows :
    let session : Session := { store := { database := "db", ids := ⟨⟨0⟩, 0⟩ } }
    (session.on "seats" (loadThenBuild placedDocuments rowIndex "row-1")).1 =
        .error (.duplicateKey "db.seats" "row-1") ∧
      (session.on "seats" (buildThenLoad placedDocuments rowIndex "row-1")).1 =
        .error (.duplicateKey "db.seats" "row-1") ∧
      (session.on "seats" (buildThenLoad (placedDocuments.take 2) rowIndex "row-1")).1 =
        .ok () := by
  intro session
  have hidentified : ∀ document ∈ placedDocuments, Document.contains document idField = true := by
    decide
  have hdiffer : placedDocuments.Pairwise fun a b => sameId a b = false := by
    decide
  have hdistinct : (placedDocuments.take 2).Pairwise fun a b => sameId a b = false :=
    hdiffer.sublist (List.take_sublist 2 _)
  obtain ⟨hrefused, -, herrors⟩ := @build_load_agree placedDocuments rowIndex "row-1" session
    "seats" rfl rfl rfl hidentified hdiffer rfl (by decide)
  obtain ⟨hcommute, -, -⟩ := @build_load_agree (placedDocuments.take 2) rowIndex "row-1" session
    "seats" rfl rfl rfl (fun document hdocument =>
      hidentified document (List.mem_of_mem_take hdocument)) hdistinct rfl (by decide)
  have hloaded : (session.on "seats" (loadThenBuild placedDocuments rowIndex "row-1")).1 =
      .error (.duplicateKey "db.seats" "row-1") := by
    rfl
  refine ⟨hloaded, ?_, hcommute.1 rfl⟩
  cases hbuilt : (session.on "seats" (buildThenLoad placedDocuments rowIndex "row-1")).1 with
  | ok value => rw [hrefused.2 hbuilt] at hloaded; cases hloaded
  | error error => rw [herrors error (.inr hbuilt)]; rfl

end Session

end VersionedStore
