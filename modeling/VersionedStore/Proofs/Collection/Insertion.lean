import VersionedStore.Proofs.Collection.Writes

/-!
# How far an insertion comes

An insertion puts documents behind the others until one of them collides.  Those before it stay, each
with its own identity or with a generated one in front.

* `StoredAs`: a document as it is stored.
* `Collection.Collides`: what keeps a document from standing beside others.
* `Collection.insertAll_cases`: an insertion comes to its end, or to the first document that
  collides.
* `Collection.insertAll_identified`, `Collection.insertAll_eq_ok_iff`: documents that all have
  identities, and when they all go into a collection without documents.
-/

set_option autoImplicit false

namespace VersionedStore

/-- A document as it is stored: with its own identity, or with a generated one in front. -/
inductive StoredAs : Document → Document → Prop
  | own {document : Document} (h : Document.contains document idField = true) :
    StoredAs document document
  | generated {document : Document} (h : Document.contains document idField = false)
    (id : ObjectId) : StoredAs document ((idField, .objectId id) :: document)

/-- A document with a generated identity in front is a stored form of it. -/
theorem storedAs_withId (id : ObjectId) (document : Document) :
    StoredAs document (withId (.objectId id) document) := by
  unfold withId
  split
  · rename_i h
    exact .own h
  · rename_i h
    exact .generated (Bool.eq_false_iff.2 h) id

/-- A document that brings its identity is stored as it is. -/
theorem StoredAs.eq_of_contains {document stored : Document} (h : StoredAs document stored)
    (hidentified : Document.contains document idField = true) : stored = document := by
  cases h with
  | own _ => rfl
  | generated hmissing _ => simp [hidentified] at hmissing

/-- Documents that bring their identities are stored as they are. -/
theorem StoredAs.eq_of_forall_contains {documents stored : List Document}
    (h : List.Forall₂ StoredAs documents stored)
    (hidentified : ∀ document ∈ documents, Document.contains document idField = true) :
    stored = documents := by
  induction h with
  | nil => rfl
  | cons hfirst _ ih =>
    rw [List.forall_mem_cons] at hidentified
    rw [hfirst.eq_of_contains hidentified.1, ih hidentified.2]

namespace Collection

/-- What keeps a document from standing beside others: one of them has its identity, or a unique
index holds it to be the same as one of them. -/
def Collides (indexes : NameMap IndexDefinition) (others : List Document) (document : Document) :
    Prop :=
  (∃ other ∈ others, sameId document other = true) ∨
    ∃ index definition, indexes.get? index = some definition ∧ definition.unique = true ∧
      ∃ other ∈ others, definition.collide document other = true

variable {indexes : NameMap IndexDefinition} {others : List Document} {document : Document}

/-- No unique index keeps a document away exactly if it does not collide. -/
theorem clash?_eq_none_iff : clash? indexes others document = none ↔
    ¬ Collides indexes others document := by
  have hcheck := checkUnique_eq_ok_iff "" indexes others document
  have hclash : checkUnique "" indexes others document = .ok () ↔
      clash? indexes others document = none := by
    unfold checkUnique
    cases clash? indexes others document <;> simp
  rw [← hclash, hcheck]
  unfold Collides
  simp only [not_or, not_exists, not_and, Bool.not_eq_true]

/-- The index of a clash is the one under which the document collides. -/
theorem collides_of_clash? {index : String} (h : clash? indexes others document = some index) :
    Collides indexes others document := by
  by_contra hfree
  rw [← clash?_eq_none_iff, h] at hfree
  simp at hfree

/-- An insertion stores documents until it comes to the end or to one that collides with those that
stand there then.  None of those stored collides with what stands in front of it, and identities are
generated only for documents without one. -/
theorem insertAll_cases (space : String) (ids : IdSource) (collection : Collection)
    (documents : List Document) :
    ∃ before behind stored ids', documents = before ++ behind ∧
      List.Forall₂ StoredAs before stored ∧
      (∀ front placed back, stored = front ++ placed :: back →
        ¬ Collides collection.indexes (collection.documents ++ front) placed) ∧
      ((∀ document ∈ documents, Document.contains document idField = true) → ids' = ids) ∧
      (insertAll space ids collection documents).2 =
        (ids', { collection with documents := collection.documents ++ stored }) ∧
      (behind = [] ∧ (insertAll space ids collection documents).1 = .ok () ∨
        ∃ document rest refused index, behind = document :: rest ∧ StoredAs document refused ∧
          clash? collection.indexes (collection.documents ++ stored) refused = some index ∧
          (insertAll space ids collection documents).1 = .error (.duplicateKey space index)) := by
  induction documents generalizing ids collection with
  | nil =>
    refine ⟨[], [], [], ids, rfl, .nil, by simp, fun _ => rfl, ?_, .inl ⟨rfl, rfl⟩⟩
    rw [List.append_nil]
    rfl
  | cons first others ih =>
    have hfirst := storedAs_withId ids.nextId first
    generalize hplaced : withId (.objectId ids.nextId) first = placed at hfirst
    cases hclash : clash? collection.indexes collection.documents placed with
    | some index =>
      have hinserted : insertAll space ids collection (first :: others) =
          (.error (.duplicateKey space index),
            if Document.contains first idField then ids else ids.advance, collection) := by
        rw [insertAll]
        unfold checkUnique
        simp only [hplaced, hclash]
      refine ⟨[], first :: others, [], if Document.contains first idField then ids else ids.advance,
        rfl, .nil, by simp, ?_, ?_, .inr ?_⟩
      · intro hidentified
        rw [if_pos (hidentified first List.mem_cons_self)]
      · rw [hinserted, List.append_nil]
      · refine ⟨first, others, placed, index, rfl, hfirst, ?_, ?_⟩
        · rw [List.append_nil, hclash]
        · rw [hinserted]
    | none =>
      obtain ⟨before, behind, stored, ids', rfl, hstored, hfree, hids, hleft, hend⟩ :=
        ih (if Document.contains first idField then ids else ids.advance)
          { collection with documents := collection.documents ++ [placed] }
      have hinserted : insertAll space ids collection (first :: (before ++ behind)) =
          insertAll space (if Document.contains first idField then ids else ids.advance)
            { collection with documents := collection.documents ++ [placed] }
            (before ++ behind) := by
        rw [insertAll]
        unfold checkUnique
        simp only [hplaced, hclash]
      have hassoc : ∀ front : List Document,
          collection.documents ++ [placed] ++ front = collection.documents ++ placed :: front := by
        simp
      simp only [hassoc] at hfree hleft hend
      rw [hinserted]
      refine ⟨first :: before, behind, placed :: stored, ids', rfl, .cons hfirst hstored, ?_, ?_,
        hleft, hend⟩
      · intro front next back hsplit
        cases front with
        | nil =>
          obtain ⟨rfl, -⟩ := List.cons.inj hsplit
          rw [List.append_nil, ← clash?_eq_none_iff, hclash]
        | cons other front =>
          obtain ⟨rfl, hback⟩ := List.cons.inj hsplit
          exact hfree front next back hback
      · intro hidentified
        rw [List.forall_mem_cons] at hidentified
        have hkept := hids hidentified.2
        rwa [if_pos hidentified.1] at hkept

/-- Documents with identities of their own are inserted as they are, up to the first one that
clashes with the documents in front of it. -/
theorem insertAll_identified (space : String) (ids : IdSource) (collection : Collection)
    {documents : List Document}
    (hidentified : ∀ document ∈ documents, Document.contains document idField = true) :
    ((∀ before document behind, documents = before ++ document :: behind →
        clash? collection.indexes (collection.documents ++ before) document = none) ∧
      insertAll space ids collection documents =
        (.ok (), ids, { collection with documents := collection.documents ++ documents })) ∨
    ∃ before document behind index, documents = before ++ document :: behind ∧
      clash? collection.indexes (collection.documents ++ before) document = some index ∧
      insertAll space ids collection documents = (.error (.duplicateKey space index), ids,
        { collection with documents := collection.documents ++ before }) := by
  obtain ⟨before, behind, stored, ids', rfl, hstored, hfree, hids, hleft, hend⟩ :=
    insertAll_cases space ids collection documents
  have hbefore : ∀ document ∈ before, Document.contains document idField = true :=
    fun document hdocument => hidentified document (List.mem_append_left _ hdocument)
  obtain rfl : stored = before := StoredAs.eq_of_forall_contains hstored hbefore
  obtain rfl : ids' = ids := hids hidentified
  rcases hend with ⟨rfl, hok⟩ | ⟨document, rest, refused, index, rfl, hrefused, hclash, herror⟩
  · rw [List.append_nil] at hok hleft ⊢
    left
    refine ⟨fun front placed back hsplit => ?_, Prod.ext hok hleft⟩
    exact clash?_eq_none_iff.2 (hfree front placed back hsplit)
  · obtain rfl : refused = document := hrefused.eq_of_contains (hidentified document (by simp))
    right
    exact ⟨stored, refused, rest, index, rfl, hclash, Prod.ext herror hleft⟩

/-- What holds of each document and all those in front of it holds of all pairs. -/
theorem forall_split_iff_pairwise {R : Document → Document → Prop} {documents : List Document} :
    (∀ front placed back, documents = front ++ placed :: back → ∀ other ∈ front, R other placed) ↔
      documents.Pairwise R := by
  constructor
  · intro h
    induction documents with
    | nil => exact .nil
    | cons first rest ih =>
      refine .cons (fun document hdocument => ?_) (ih fun front placed back hsplit other hother => ?_)
      · obtain ⟨front, back, rfl⟩ := List.append_of_mem hdocument
        exact h (first :: front) document back rfl first List.mem_cons_self
      · exact h (first :: front) placed back (by rw [hsplit, List.cons_append]) other
          (List.mem_cons_of_mem _ hother)
  · rintro h front placed back rfl other hother
    exact (List.pairwise_append.1 h).2.2 other hother placed List.mem_cons_self

/-- Documents with identities all go into a collection without documents exactly if no two of them
have the same identity, and no unique index holds two of them to be the same. -/
theorem insertAll_eq_ok_iff (space : String) (ids : IdSource) {collection : Collection}
    (hempty : collection.documents = []) {documents : List Document}
    (hidentified : ∀ document ∈ documents, Document.contains document idField = true) :
    (insertAll space ids collection documents).1 = .ok () ↔
      (documents.Pairwise fun a b => sameId b a = false) ∧
        ∀ index definition, collection.indexes.get? index = some definition →
          definition.unique = true →
          documents.Pairwise fun a b => definition.collide b a = false := by
  have hfree : (∀ front placed back, documents = front ++ placed :: back →
        clash? collection.indexes front placed = none) ↔
      (documents.Pairwise fun a b => sameId b a = false) ∧
        ∀ index definition, collection.indexes.get? index = some definition →
          definition.unique = true →
          documents.Pairwise fun a b => definition.collide b a = false := by
    simp only [clash?_eq_none_iff, Collides, ← forall_split_iff_pairwise, not_or, not_exists,
      not_and, Bool.not_eq_true]
    constructor
    · intro h
      exact ⟨fun front placed back hsplit => (h front placed back hsplit).1,
        fun index definition hindex hunique front placed back hsplit =>
          (h front placed back hsplit).2 index definition hindex hunique⟩
    · rintro ⟨hids, hkeys⟩ front placed back hsplit
      exact ⟨hids front placed back hsplit, fun index definition hindex hunique =>
        hkeys index definition hindex hunique front placed back hsplit⟩
  rw [← hfree]
  rcases insertAll_identified space ids collection hidentified with
    ⟨hnone, hinserted⟩ | ⟨before, document, behind, index, hsplit, hclash, hinserted⟩
  · rw [hempty] at hnone
    simpa only [hinserted, true_iff, List.nil_append] using hnone
  · rw [hempty, List.nil_append] at hclash
    rw [hinserted]
    simp only [reduceCtorEq, false_iff, not_forall]
    exact ⟨before, document, behind, hsplit, by simp [hclash]⟩

end Collection

end VersionedStore
