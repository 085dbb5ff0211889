import VersionedStore.Proofs.Collection.Insertion
import VersionedStore.Proofs.Collection.Search
import VersionedStore.Proofs.Filter.Integers
import VersionedStore.Proofs.Session.Effects

/-!
# Documents with integers for identities

Two integers are the same identity if they are rounded to the same double.  Integers up to `2 ^ 53`
are not rounded, and so are told apart; beyond, neighbours may not be.

* `sameId_int64`: when two integers are the same identity.
* `Session.insert_integer_ids`: which documents an insertion takes, and how they are found again.
* `Session.integers_rounded`: what filters and identities see of integers.
* `Session.integers_confused`: two integers that they do not tell apart.
-/

set_option autoImplicit false

namespace VersionedStore

open Double

/-- Integers are the same identity if they are rounded to the same. -/
theorem sameId_int64 {a b : Document} {i j : Int64}
    (ha : Document.get? a idField = some (.int64 i))
    (hb : Document.get? b idField = some (.int64 j)) :
    sameId a b = decide (nearestInt i.toInt = nearestInt j.toInt) := by
  unfold sameId
  rw [ha, hb]
  exact Value.looselyEquals_int64 i j

/-- Documents with integer identities have identities. -/
theorem contains_of_integer_ids {documents : List Document} {idOf : Document → Int64}
    (hid : ∀ document ∈ documents, Document.get? document idField = some (.int64 (idOf document))) :
    ∀ document ∈ documents, Document.contains document idField = true := by
  intro document hdocument
  unfold Document.contains
  rw [hid document hdocument]
  rfl

/-- Among members with distinct keys, each is the only one with its key. -/
theorem filter_key_eq {α : Type} {key : α → ℤ} {members : List α} (h : (members.map key).Nodup)
    {member : α} (hmember : member ∈ members) :
    (members.filter fun other => decide (key other = key member)) = [member] := by
  obtain ⟨before, behind, rfl⟩ := List.append_of_mem hmember
  rw [List.map_append, List.map_cons, List.nodup_append, List.nodup_cons] at h
  obtain ⟨-, ⟨hbehind, -⟩, hbefore⟩ := h
  have hnone : (before.filter fun other => decide (key other = key member)) = [] := by
    rw [List.filter_eq_nil_iff]
    intro other hother
    simpa using hbefore _ (List.mem_map_of_mem hother) _ List.mem_cons_self
  have hrest : (behind.filter fun other => decide (key other = key member)) = [] := by
    rw [List.filter_eq_nil_iff]
    intro other hother hsame
    exact hbehind (List.mem_map.2 ⟨other, hother, of_decide_eq_true hsame⟩)
  rw [List.filter_append, List.filter_cons, hnone, hrest]
  simp

namespace Collection

variable {collection : Collection} {documents : List Document} {idOf : Document → Int64}

/-- Documents with integers for identities all go into a collection without documents exactly if
the integers are rounded to distinct ones, and no unique index holds two documents to be the same. -/
theorem insertAll_integer_ids (space : String) (ids : IdSource) (hempty : collection.documents = [])
    (hid : ∀ document ∈ documents, Document.get? document idField = some (.int64 (idOf document))) :
    (insertAll space ids collection documents).1 = .ok () ↔
      (documents.map fun document => nearestInt (idOf document).toInt).Nodup ∧
        ∀ index definition, collection.indexes.get? index = some definition →
          definition.unique = true →
          documents.Pairwise fun a b => definition.collide b a = false := by
  have hdistinct : (documents.Pairwise fun a b => sameId b a = false) ↔
      (documents.map fun document => nearestInt (idOf document).toInt).Nodup := by
    unfold List.Nodup
    rw [List.pairwise_map]
    refine List.Pairwise.iff_of_mem fun ha hb => ?_
    rw [sameId_int64 (hid _ hb) (hid _ ha), decide_eq_false_iff_not, ne_comm]
  rw [insertAll_eq_ok_iff space ids hempty (contains_of_integer_ids hid), hdistinct]

/-- Among documents with integers that are rounded to distinct ones, each finds its own. -/
theorem matching_integer_id
    (hid : ∀ document ∈ documents, Document.get? document idField = some (.int64 (idOf document)))
    (hdistinct : (documents.map fun document => nearestInt (idOf document).toInt).Nodup)
    {document : Document} (hdocument : document ∈ documents) :
    matching [(idField, .int64 (idOf document))] documents = .ok [document] := by
  rw [matching_of_total fun other hother =>
    Filter.accepts_int64 (by decide) (by decide) (hid other hother) (idOf document)]
  exact congrArg Except.ok (filter_key_eq hdistinct hdocument)

end Collection

namespace Session

variable {session : Session} {name : String} {documents : List Document}
  {idOf : Document → Int64}

/-- Without faults and options, a cursor returns the documents that match. -/
theorem on_find_none (hfaults : session.faults = .none) (filter : Document) :
    (session.on name (Action.find filter {})).1 =
      (Collection.matching filter (session.store.documents name)).map fun found =>
        ⟨found, none⟩ := by
  have hrun : (session.handle name).faults = .none := hfaults
  rw [on_eq, Action.outcome_find_none _ _ hrun]
  simp only [FindOptions.projected, FindOptions.page, FindOptions.sorted]
  rfl

/-- Without faults, an insertion leaves the documents that the collection then has. -/
theorem on_insert_none (hfaults : session.faults = .none) (documents : List Document) :
    let run := Collection.insertAll (session.handle name).space (session.handle name).ids
      ((session.handle name).content.getD {}) documents
    let inserted := session.on name (Action.insert documents)
    inserted.1 = run.1 ∧ inserted.2.store.documents name = run.2.2.documents ∧
      inserted.2.faults = .none := by
  intro run inserted
  have hrun : (session.handle name).faults = .none := hfaults
  have hinserted : inserted = (run.1, session.adopt name { (session.handle name).logged .insert with
      ids := run.2.1, content := some run.2.2 }) := by
    simp only [inserted, run, on_eq, Action.outcome_insert_none documents hrun]
  rw [hinserted]
  exact ⟨rfl, documents_adopt fun _ => rfl, hfaults⟩

/-- Documents that have gone in are each found by their integers, and otherwise a key is taken. -/
theorem insert_integer_ids (hfaults : session.faults = .none)
    (hempty : session.store.documents name = [])
    (hid : ∀ document ∈ documents, Document.get? document idField = some (.int64 (idOf document))) :
    let inserted := session.on name (Action.insert documents)
    (inserted.1 = .ok () ↔ (documents.map fun document => nearestInt (idOf document).toInt).Nodup ∧
      ∀ index definition, (session.store.indexes name).get? index = some definition →
        definition.unique = true →
        documents.Pairwise fun a b => definition.collide b a = false) ∧
    (inserted.1 = .ok () → ∀ document ∈ documents,
      (inserted.2.on name (Action.find [(idField, .int64 (idOf document))] {})).1 =
        .ok ⟨[document], none⟩) ∧
    ∀ error, inserted.1 = .error error →
      ∃ index, error = .duplicateKey (Store.spaceOf session.store.database name) index := by
  intro inserted
  have hempty' : ((session.handle name).content.getD {}).documents = [] := by
    rw [← Handle.documents_eq]
    exact hempty
  obtain ⟨hresult, hdocuments, hlater⟩ := @on_insert_none session name hfaults documents
  have hcases := Collection.insertAll_identified (session.handle name).space
    (session.handle name).ids ((session.handle name).content.getD {}) (contains_of_integer_ids hid)
  have hiff := Collection.insertAll_integer_ids (session.handle name).space
    (session.handle name).ids hempty' hid
  rw [← hresult, ← Handle.indexes_eq] at hiff
  refine ⟨hiff, ?_, ?_⟩
  · intro hok document hdocument
    have hstored : inserted.2.store.documents name = documents := by
      rcases hcases with ⟨-, hrun⟩ | ⟨before, other, behind, index, -, -, hrun⟩
      · rw [hdocuments, hrun, hempty', List.nil_append]
      · rw [hresult, hrun] at hok
        simp at hok
    rw [on_find_none hlater, hstored,
      Collection.matching_integer_id hid (hiff.1 hok).1 hdocument]
    rfl
  · intro error herror
    rcases hcases with ⟨-, hrun⟩ | ⟨before, other, behind, index, -, -, hrun⟩
    · rw [hresult, hrun] at herror
      simp at herror
    · rw [hresult, hrun] at herror
      exact ⟨index, (Except.error.inj herror).symm⟩

/-- Whatever the integers are.  A document with an integer matches the filters for an equal, a
larger and a smaller one as the two are rounded: to what the nearest double stands for, no more than
half a step away.  Rounding never turns the order of two integers round, leaves those alone that are
whole numbers of steps, and keeps the order where one of the two has a magnitude below `2 ^ 53`.
Documents with integers for identities all go into a collection without documents exactly if these
are rounded to distinct ones, and no unique index holds two documents to be the same; each is then
the only one that its integer finds, and otherwise a key is taken. -/
theorem integers_rounded :
    (∀ (field : String) (a b : Int64), '.' ∉ field.toList → isOperatorName field = false →
      Filter.accepts [(field, .int64 a)] [(field, .int64 b)] =
          .ok (decide (nearestInt a.toInt = nearestInt b.toInt)) ∧
        Filter.accepts [(field, .int64 a)] [(field, .document [("$lt", .int64 b)])] =
          .ok (decide (nearestInt a.toInt < nearestInt b.toInt)) ∧
        Filter.accepts [(field, .int64 a)] [(field, .document [("$gt", .int64 b)])] =
          .ok (decide (nearestInt b.toInt < nearestInt a.toInt))) ∧
    (∀ a : Int64, (ofInt a.toInt).ratio.1 =
        (nearestInt a.toInt).natAbs * (ofInt a.toInt).ratio.2 ∧
      2 * (nearestInt a.toInt - a.toInt).natAbs ≤ wholeStep a.toInt.natAbs) ∧
    (∀ a b : Int64, a ≤ b → nearestInt a.toInt ≤ nearestInt b.toInt) ∧
    (∀ a : Int64, nearestInt a.toInt = a.toInt ↔ wholeStep a.toInt.natAbs ∣ a.toInt.natAbs) ∧
    (∀ a b : Int64, a.toInt.natAbs < 2 ^ 53 ∨ b.toInt.natAbs < 2 ^ 53 →
      (nearestInt a.toInt = nearestInt b.toInt ↔ a = b) ∧
        (nearestInt a.toInt < nearestInt b.toInt ↔ a < b)) ∧
    ∀ (session : Session) (name : String) (documents : List Document) (idOf : Document → Int64),
      session.faults = .none → session.store.documents name = [] →
      (∀ document ∈ documents,
        Document.get? document idField = some (.int64 (idOf document))) →
      let inserted := session.on name (Action.insert documents)
      (inserted.1 = .ok () ↔
        (documents.map fun document => nearestInt (idOf document).toInt).Nodup ∧
        ∀ index definition, (session.store.indexes name).get? index = some definition →
          definition.unique = true →
          documents.Pairwise fun a b => definition.collide b a = false) ∧
      (inserted.1 = .ok () → ∀ document ∈ documents,
        (inserted.2.on name (Action.find [(idField, .int64 (idOf document))] {})).1 =
          .ok ⟨[document], none⟩) ∧
      ∀ error, inserted.1 = .error error →
        ∃ index, error = .duplicateKey (Store.spaceOf session.store.database name) index := by
  refine ⟨?_, ?_, ?_, ?_, ?_, ?_⟩
  · intro field a b hpoint hname
    have hfield : Document.get? [(field, .int64 a)] field = some (.int64 a) := if_pos rfl
    exact ⟨Filter.accepts_int64 hpoint hname hfield b,
      Filter.accepts_int64_operator hpoint hname hfield b⟩
  · intro a
    exact ⟨ratio_ofInt (natAbs_toInt_lt a), nearestInt_error a.toInt⟩
  · intro a b hle
    exact nearestInt_mono (Int64.le_iff_toInt_le.1 hle)
  · intro a
    exact nearestInt_eq_self_iff
  · intro a b hsmall
    rw [← Int64.toInt_inj, Int64.lt_iff_toInt_lt]
    rcases hsmall with hsmall | hsmall
    · exact ⟨by rw [eq_comm, nearestInt_inj hsmall, eq_comm], lt_nearestInt_iff hsmall⟩
    · exact ⟨nearestInt_inj hsmall, nearestInt_lt_iff hsmall⟩
  · intro session name documents idOf hfaults hempty hid
    exact insert_integer_ids hfaults hempty hid

/-- The statement for two integers that are rounded, but not to the same. -/
theorem integers_rounded_apart :
    let session : Session := { store := { database := "db", ids := ⟨⟨0⟩, 0⟩ } }
    let rows : List Document :=
      [[(idField, .int64 9007199254740993)], [(idField, .int64 9007199254740995)]]
    let inserted := session.on "rows" (Action.insert rows)
    Filter.accepts [("at", .int64 9007199254740993)]
        [("at", .document [("$lt", .int64 9007199254740995)])] = .ok true ∧
      inserted.1 = .ok () ∧
      (inserted.2.on "rows" (Action.find [(idField, .int64 9007199254740993)] {})).1 =
        .ok ⟨[[(idField, .int64 9007199254740993)]], none⟩ := by
  intro session rows inserted
  let idOf : Document → Int64 := fun document =>
    if sameId document [(idField, .int64 9007199254740993)] then 9007199254740993
    else 9007199254740995
  have hid : ∀ document ∈ rows, Document.get? document idField = some (.int64 (idOf document)) := by
    intro document hdocument
    rcases List.mem_pair.1 hdocument with rfl | rfl <;> rfl
  obtain ⟨hfilters, -, -, -, -, hinsert⟩ := integers_rounded
  obtain ⟨hiff, hfound, -⟩ := hinsert session "rows" rows idOf rfl rfl hid
  obtain ⟨-, hsmaller, -⟩ :=
    hfilters "at" 9007199254740993 9007199254740995 (by decide) (by decide)
  have hinserted : inserted.1 = .ok () := by
    refine hiff.2 ⟨by decide, ?_⟩
    intro index definition hindex
    cases hindex
  refine ⟨?_, hinserted, hfound hinserted _ List.mem_cons_self⟩
  rw [hsmaller]
  exact congrArg Except.ok (by decide)

/-- Two integers that filters do not tell apart, and that are the same identity. -/
theorem integers_confused :
    let session : Session := { store := { database := "db", ids := ⟨⟨0⟩, 0⟩ } }
    (9007199254740992 : Int64) < 9007199254740993 ∧
      Filter.accepts [("at", .int64 9007199254740993)] [("at", .int64 9007199254740992)] =
        .ok true ∧
      Filter.accepts [("at", .int64 9007199254740992)]
        [("at", .document [("$lt", .int64 9007199254740993)])] = .ok false ∧
      (session.on "rows" (Action.insert
        [[(idField, .int64 9007199254740992)], [(idField, .int64 9007199254740993)]])).1 =
        .error (.duplicateKey "db.rows" primaryIndex) := by
  intro session
  have hpoint : '.' ∉ "at".toList := by decide
  have hname : isOperatorName "at" = false := by decide
  refine ⟨by decide, ?_, ?_, by rfl⟩
  · rw [Filter.accepts_int64 hpoint hname (by rfl)]
    exact congrArg Except.ok (by decide)
  · rw [(Filter.accepts_int64_operator hpoint hname (by rfl) _).1]
    exact congrArg Except.ok (by decide)

end Session

end VersionedStore
