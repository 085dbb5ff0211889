import VersionedStore.Collection
import VersionedStore.Proofs.NameMap.Lookup
import VersionedStore.Proofs.Value.Fields

/-!
# What the operations on a collection do

One statement for each operation, from which everything else about it is derived.

* `Collection.checkUnique_eq_ok_iff`: when a document may stand beside others.
* `Collection.splitAtFirst_eq_some`: a split leaves the documents in their order.
* `Collection.replaceFirst_eq_ok`: a replacement takes place at one position, or not at all.
* `Collection.createIndex_eq_ok`, `Collection.dropIndex_eq_ok_iff`: the changes to the indexes.
-/

set_option autoImplicit false

namespace VersionedStore

/-- A document with an identity has one. -/
theorem contains_withId (id : Value) (document : Document) :
    Document.contains (withId id document) idField = true := by
  unfold withId
  split
  · assumption
  · simp [Document.contains, Document.withFirst, Document.get?_cons]

namespace Collection

/-- A document may stand beside others if none of them has its identity and no unique index
holds it to be the same as one of them. -/
theorem checkUnique_eq_ok_iff (space : String) (indexes : NameMap IndexDefinition)
    (others : List Document) (document : Document) :
    checkUnique space indexes others document = .ok () ↔
      (∀ other ∈ others, sameId document other = false) ∧
      ∀ name definition, indexes.get? name = some definition → definition.unique = true →
        ∀ other ∈ others, definition.collide document other = false := by
  have hindexes : (indexes.entries.find? fun entry =>
      entry.2.unique && others.any (entry.2.collide document)) = none ↔
      ∀ name definition, indexes.get? name = some definition → definition.unique = true →
        ∀ other ∈ others, definition.collide document other = false := by
    simp only [List.find?_eq_none, Bool.and_eq_true, List.any_eq_true, not_and, not_exists,
      Bool.not_eq_true]
    constructor
    · intro h name definition hindex
      exact h (name, definition) ((indexes.mem_entries_iff name definition).2 hindex)
    · rintro h ⟨name, definition⟩ hentry
      exact h name definition ((indexes.mem_entries_iff name definition).1 hentry)
  unfold checkUnique clash?
  by_cases hid : others.any (sameId document) = true
  · rw [if_pos hid]
    obtain ⟨other, hother, hsame⟩ := List.any_eq_true.1 hid
    simp only [reduceCtorEq, false_iff, not_and]
    intro hdiffer
    rw [hdiffer other hother] at hsame
    exact absurd hsame Bool.false_ne_true
  · rw [if_neg hid]
    have hdiffer : ∀ other ∈ others, sameId document other = false := by
      intro other hother
      by_contra hsame
      exact hid (List.any_eq_true.2 ⟨other, hother, by simpa using hsame⟩)
    rw [← hindexes]
    cases indexes.entries.find? fun entry =>
        entry.2.unique && others.any (entry.2.collide document) with
    | none => simpa using hdiffer
    | some entry => simp

/-- A split at the first document that a filter matches leaves the documents in their order;
the filter matches that document and none before it. -/
theorem splitAtFirst_eq_some {filter : Document} {documents before behind : List Document}
    {current : Document}
    (h : splitAtFirst filter documents = .ok (some (before, current, behind))) :
    documents = before ++ current :: behind ∧ Filter.accepts current filter = .ok true ∧
      ∀ document ∈ before, Filter.accepts document filter = .ok false := by
  induction documents generalizing before with
  | nil => simp [splitAtFirst] at h
  | cons document rest ih =>
    unfold splitAtFirst at h
    cases hmatch : Filter.accepts document filter with
    | error error => simp [hmatch, bind, Except.bind] at h
    | ok matched =>
      cases matched with
      | true =>
        simp only [hmatch, bind, Except.bind, if_true, pure, Except.pure, Except.ok.injEq,
          Option.some.injEq, Prod.mk.injEq] at h
        obtain ⟨rfl, rfl, rfl⟩ := h
        exact ⟨rfl, hmatch, by simp⟩
      | false =>
        simp only [hmatch, bind, Except.bind, Bool.false_eq_true, if_false] at h
        cases hfound : splitAtFirst filter rest with
        | error error => simp [hfound] at h
        | ok found =>
          cases found with
          | none => simp [hfound, pure, Except.pure] at h
          | some parts =>
            obtain ⟨before', current', behind'⟩ := parts
            simp only [hfound, pure, Except.pure, Option.map_some, Except.ok.injEq,
              Option.some.injEq, Prod.mk.injEq] at h
            obtain ⟨rfl, rfl, rfl⟩ := h
            obtain ⟨hrest, hcurrent, hbefore⟩ := ih hfound
            refine ⟨by rw [hrest, List.cons_append], hcurrent, ?_⟩
            intro other hother
            rcases List.mem_cons.1 hother with rfl | hother
            · exact hmatch
            · exact hbefore other hother

/-- A replacement either finds nothing and changes nothing, or puts a document that may stand
beside the others in the place of the first one that the filter matches. -/
theorem replaceFirst_eq_ok {space : String} {collection collection' : Collection}
    {filter replacement : Document} {replaced : Nat}
    (h : replaceFirst space collection filter replacement = .ok (replaced, collection')) :
    (replaced = 0 ∧ collection' = collection) ∨
      ∃ before current behind stored,
        splitAtFirst filter collection.documents = .ok (some (before, current, behind)) ∧
        keepId space current replacement = .ok stored ∧
        checkUnique space collection.indexes (before ++ behind) stored = .ok () ∧
        replaced = 1 ∧
        collection' = { collection with documents := before ++ stored :: behind } := by
  unfold replaceFirst at h
  cases hsplit : splitAtFirst filter collection.documents with
  | error error => simp [hsplit, bind, Except.bind] at h
  | ok found =>
    cases found with
    | none =>
      simp only [hsplit, bind, Except.bind, pure, Except.pure, Except.ok.injEq,
        Prod.mk.injEq] at h
      exact .inl ⟨h.1.symm, h.2.symm⟩
    | some parts =>
      obtain ⟨before, current, behind⟩ := parts
      simp only [hsplit, bind, Except.bind] at h
      cases hstored : keepId space current replacement with
      | error error => simp [hstored] at h
      | ok stored =>
        simp only [hstored] at h
        cases hunique : checkUnique space collection.indexes (before ++ behind) stored with
        | error error => simp [hunique] at h
        | ok _ =>
          simp only [hunique, pure, Except.pure, Except.ok.injEq, Prod.mk.injEq] at h
          exact .inr ⟨before, current, behind, stored, rfl, hstored, hunique, h.1.symm,
            h.2.symm⟩

/-- A replacement keeps an identity: that of the document it stands for, or its own, which is
then the same. -/
theorem contains_of_keepId {space : String} {current replacement stored : Document}
    (hcurrent : Document.contains current idField = true)
    (h : keepId space current replacement = .ok stored) :
    Document.contains stored idField = true := by
  unfold keepId at h
  cases hid : Document.get? current idField with
  | none => simp [Document.contains, hid] at hcurrent
  | some id =>
    simp only [hid] at h
    cases hrequested : Document.get? replacement idField with
    | none =>
      simp only [hrequested, Except.ok.injEq] at h
      rw [← h]
      exact contains_withId id replacement
    | some requested =>
      simp only [hrequested] at h
      split at h
      · simp only [Except.ok.injEq] at h
        rw [← h]
        simp [Document.contains, hrequested]
      · simp at h

/-- Creating an index that is there with the same definition changes nothing; otherwise the name
must be new and, if the index is unique, no two documents may be the same to it. -/
theorem createIndex_eq_ok {space name : String} {collection collection' : Collection}
    {definition : IndexDefinition}
    (h : createIndex space collection name definition = .ok collection') :
    (∃ existing, collection.indexes.get? name = some existing ∧
        existing.sameAs definition = true ∧ collection' = collection) ∨
      collection.indexes.get? name = none ∧
      (definition.unique = true → collidesWithin definition collection.documents = false) ∧
      collection' = { collection with
        indexes := collection.indexes.insert name definition
        events := collection.events ++ [.created name] } := by
  unfold createIndex at h
  cases hexisting : collection.indexes.get? name with
  | some existing =>
    simp only [hexisting] at h
    split at h
    · rename_i hsame
      exact .inl ⟨existing, rfl, hsame, (Except.ok.inj h).symm⟩
    · simp at h
  | none =>
    simp only [hexisting] at h
    split at h
    · simp at h
    · rename_i hfits
      refine .inr ⟨rfl, ?_, (Except.ok.inj h).symm⟩
      intro hunique
      simpa [hunique] using hfits

/-- An index can be dropped if it is there, and then it is gone. -/
theorem dropIndex_eq_ok_iff {space name : String} {collection collection' : Collection} :
    dropIndex space collection name = .ok collection' ↔
      (∃ definition, collection.indexes.get? name = some definition) ∧
      collection' = { collection with
        indexes := collection.indexes.erase name
        events := collection.events ++ [.dropped name] } := by
  unfold dropIndex
  rw [← NameMap.contains_iff]
  split
  · rename_i hthere
    simp [hthere, eq_comm]
  · rename_i hmissing
    simp [hmissing]

end Collection

end VersionedStore
