import VersionedStore.Proofs.Collection.Writes
import VersionedStore.Proofs.Store.Evolution
import Mathlib.Data.Finset.Basic
import Mathlib.Data.Finset.Dedup
import Mathlib.Data.List.Induction

/-!
# The log of index events

A collection logs every index that is created and every one that is dropped.  The log can be
replayed: it begins without any index, no event creates an index that is there or drops one that
is not, and what stands in the end are the indexes of the collection.

* `IndexEvent.replay?`: the names that a log leaves, unless an event does not fit.
* `IndexEvent.created_mem_of_replay?`: what stands in the end has been created.
* `Collection.Logs`: the log of a collection tells its indexes.
* `Collection.logs_invariant`: every operation keeps this.
* `Store.Evolved.events_replay`: so it holds of every collection, whatever has happened to it.
-/

set_option autoImplicit false

namespace VersionedStore

namespace IndexEvent

/-- The index that an event is about. -/
def index : IndexEvent → String
  | .created name => name
  | .dropped name => name

/-- The names of the indexes after an event.  Only a new name can be created, and only one that is
there can be dropped. -/
def applied? (names : Finset String) : IndexEvent → Option (Finset String)
  | .created name => if name ∈ names then none else some (insert name names)
  | .dropped name => if name ∈ names then some (names.erase name) else none

/-- The names of the indexes after a log that begins without any. -/
def replay? (events : List IndexEvent) : Option (Finset String) := events.foldlM applied? ∅

/-- One more event is applied to what the events before it leave. -/
theorem replay?_append {events : List IndexEvent} {names : Finset String}
    (h : replay? events = some names) (event : IndexEvent) :
    replay? (events ++ [event]) = event.applied? names := by
  unfold replay? at h ⊢
  rw [List.foldlM_append, h]
  show (event.applied? names >>= fun after => [].foldlM applied? after) = event.applied? names
  cases event.applied? names <;> rfl

/-- Creating an index under a new name. -/
theorem replay?_created {events : List IndexEvent} {names : Finset String}
    (h : replay? events = some names) {name : String} (hnew : name ∉ names) :
    replay? (events ++ [.created name]) = some (insert name names) := by
  rw [replay?_append h, applied?, if_neg hnew]

/-- Dropping an index that is there. -/
theorem replay?_dropped {events : List IndexEvent} {names : Finset String}
    (h : replay? events = some names) {name : String} (hthere : name ∈ names) :
    replay? (events ++ [.dropped name]) = some (names.erase name) := by
  rw [replay?_append h, applied?, if_pos hthere]

/-- A name that stands after an event has stood before, or the event has created it. -/
theorem mem_of_applied? {event : IndexEvent} {before after : Finset String} {name : String}
    (h : event.applied? before = some after) (hname : name ∈ after) :
    name ∈ before ∨ event = .created name := by
  cases event with
  | created other =>
    rw [applied?] at h
    split at h
    · simp at h
    · obtain rfl := Option.some.inj h
      rcases Finset.mem_insert.1 hname with rfl | hbefore
      · exact .inr rfl
      · exact .inl hbefore
  | dropped other =>
    rw [applied?] at h
    split at h
    · obtain rfl := Option.some.inj h
      exact .inl (Finset.mem_of_mem_erase hname)
    · simp at h

/-- What stands at the end of a log has been created in it. -/
theorem created_mem_of_replay? {events : List IndexEvent} {names : Finset String} {name : String}
    (h : replay? events = some names) (hname : name ∈ names) :
    IndexEvent.created name ∈ events := by
  -- The induction is on the log from its end, where the last event is.
  induction events using List.reverseRecOn generalizing names with
  | nil =>
    obtain rfl := Option.some.inj h
    exact absurd hname (Finset.notMem_empty name)
  | append_singleton events event ih =>
    cases hbefore : replay? events with
    | none =>
      unfold replay? at h hbefore
      rw [List.foldlM_append, hbefore] at h
      simp at h
    | some before =>
      rw [replay?_append hbefore] at h
      rcases mem_of_applied? h hname with hthere | rfl
      · exact List.mem_append_left _ (ih hbefore hthere)
      · exact List.mem_append_right _ (List.mem_singleton_self _)

end IndexEvent

namespace NameMap

variable {α : Type}

/-- Insertion adds its name to the set of names. -/
theorem toFinset_names_insert (map : NameMap α) (name : String) (value : α) :
    (map.insert name value).names.toFinset = Insert.insert name map.names.toFinset := by
  ext other
  rw [List.mem_toFinset, mem_names_insert, Finset.mem_insert, List.mem_toFinset]

/-- Erasure takes its name out of the set of names. -/
theorem toFinset_names_erase (map : NameMap α) (name : String) :
    (map.erase name).names.toFinset = map.names.toFinset.erase name := by
  ext other
  rw [List.mem_toFinset, mem_names_erase, Finset.mem_erase, List.mem_toFinset]

end NameMap

namespace Collection

/-- The log of a collection can be replayed, and leaves its indexes.  The index on the identifying
field is not among them. -/
structure Logs (collection : Collection) : Prop where
  replays : IndexEvent.replay? collection.events = some collection.indexes.names.toFinset
  reserved : ∀ event ∈ collection.events, event.index ≠ primaryIndex

namespace Logs

/-- An index that stands is not that on the identifying field. -/
theorem ne_primaryIndex {collection : Collection} (h : collection.Logs) {name : String}
    (hname : name ∈ collection.indexes.names) : name ≠ primaryIndex :=
  h.reserved _ (IndexEvent.created_mem_of_replay? h.replays (List.mem_toFinset.2 hname))

/-- Documents do not matter to the log. -/
theorem withDocuments {collection : Collection} (h : collection.Logs)
    (documents : List Document) : Logs { collection with documents := documents } :=
  ⟨h.replays, h.reserved⟩

/-- Inserting documents keeps the log faithful, also when one of them is refused. -/
theorem insertAll {space : String} {ids : IdSource} {collection : Collection}
    (documents : List Document) (h : collection.Logs) :
    (Collection.insertAll space ids collection documents).2.2.Logs := by
  induction documents generalizing ids collection with
  | nil => exact h
  | cons document rest ih =>
    unfold Collection.insertAll
    simp only
    split
    · exact h
    · exact ih (h.withDocuments _)

/-- Replacing a document keeps the log faithful. -/
theorem replaceFirst {space : String} {collection collection' : Collection}
    {filter replacement : Document} {replaced : ℕ} (h : collection.Logs)
    (hreplaced : Collection.replaceFirst space collection filter replacement =
      .ok (replaced, collection')) : collection'.Logs := by
  rcases replaceFirst_eq_ok hreplaced with ⟨-, rfl⟩ | ⟨before, _, behind, stored, -, -, -, -, rfl⟩
  · exact h
  · exact h.withDocuments _

/-- An index that is there already is not logged again, and a new one is. -/
theorem createIndex {space name : String} {collection collection' : Collection}
    {definition : IndexDefinition} (h : collection.Logs) (hname : name ≠ primaryIndex)
    (hcreated : Collection.createIndex space collection name definition = .ok collection') :
    collection'.Logs := by
  rcases createIndex_eq_ok hcreated with ⟨_, -, -, rfl⟩ | ⟨hfree, -, rfl⟩
  · exact h
  · have hnew : name ∉ collection.indexes.names.toFinset := by
      rw [List.mem_toFinset, NameMap.mem_names_iff, hfree]
      simp
    constructor
    · rw [NameMap.toFinset_names_insert]
      exact IndexEvent.replay?_created h.replays hnew
    · intro event hevent
      rcases List.mem_append.1 hevent with hearlier | hlast
      · exact h.reserved event hearlier
      · rw [List.mem_singleton.1 hlast]
        exact hname

/-- Dropping an index keeps the log faithful, since it is logged. -/
theorem dropIndex {space name : String} {collection collection' : Collection}
    (h : collection.Logs)
    (hdropped : Collection.dropIndex space collection name = .ok collection') :
    collection'.Logs := by
  obtain ⟨hfound, rfl⟩ := dropIndex_eq_ok_iff.1 hdropped
  have hname : name ∈ collection.indexes.names := (NameMap.mem_names_iff _ _).2 hfound
  constructor
  · rw [NameMap.toFinset_names_erase]
    exact IndexEvent.replay?_dropped h.replays (List.mem_toFinset.2 hname)
  · intro event hevent
    rcases List.mem_append.1 hevent with hearlier | hlast
    · exact h.reserved event hearlier
    · rw [List.mem_singleton.1 hlast]
      exact h.ne_primaryIndex hname

end Logs

/-- Every operation on a collection keeps its log faithful. -/
theorem logs_invariant : Invariant Logs where
  empty := ⟨rfl, by simp⟩
  insertAll _ _ _ documents h := h.insertAll documents
  replaceFirst h hreplaced := h.replaceFirst hreplaced
  createIndex h hname hcreated := h.createIndex hname hcreated
  dropIndex h hdropped := h.dropIndex hdropped

end Collection

namespace Store

/-- Whatever has happened to a store, the log of each of its collections can be replayed from no
index at all to the indexes that the collection has, and no event in it is about the index on the
identifying field. -/
theorem Evolved.events_replay {store : Store} (hstore : store.Evolved) (name : String) :
    IndexEvent.replay? (store.events name) = some (store.indexes name).names.toFinset ∧
      ∀ event ∈ store.events name, event.index ≠ primaryIndex := by
  unfold Store.events Store.indexes
  cases hcollection : store.collections.get? name with
  | none => exact ⟨rfl, by simp⟩
  | some collection =>
    have hlogs := hstore.reachable.holds Collection.logs_invariant hcollection
    exact ⟨hlogs.replays, hlogs.reserved⟩

/-! ### A log after refused changes -/

/-- An index on the title. -/
def titleIndex : IndexDefinition := { keys := [("title", .int32 1)] }

/-- Changes of which only the first takes effect: the second finds the index, and the others are
refused. -/
def titleChanges : List Change :=
  [.createIndex "articles" titleIndex "title-1",
    .createIndex "articles" titleIndex "title-1",
    .createIndex "articles" { titleIndex with unique := true } "title-1",
    .createIndex "articles" titleIndex primaryIndex,
    .dropIndex "articles" "kind-1"]

/-- The session after these changes. -/
def titleSession : Session :=
  titleChanges.foldl Change.run { store := { database := "db", ids := ⟨⟨0⟩, 0⟩ } }

/-- Declarations of the next version of that index and of another index. -/
def titleDeclarations : List IndexDeclaration :=
  [.ofAdmitted "title" 2 titleIndex (Eq.refl true),
    .ofAdmitted "kind" 1 { keys := [("kind", .int32 1)] } (Eq.refl true)]

/-- The store after the indexes have been brought up to date. -/
def titleStore : Store := (titleSession.on "articles" (reconcile titleDeclarations)).2.store

/-- The statement for a store whose index has been replaced by its next version. -/
theorem Evolved.events_replay_titles :
    titleStore.Evolved ∧
      titleStore.events "articles" =
        [.created "title-1", .dropped "title-1", .created "title-2", .created "kind-1"] ∧
      IndexEvent.replay? (titleStore.events "articles") = some {"kind-1", "title-2"} := by
  have hevolved : titleStore.Evolved := by
    have hsession : titleSession.store.Evolved :=
      Evolved.foldl_run titleChanges (Evolved.fresh "db" ⟨⟨0⟩, 0⟩)
    exact .reconcile titleSession "articles" titleDeclarations hsession
  have hnames : (titleStore.indexes "articles").names = ["kind-1", "title-2"] := by
    decide +kernel
  obtain ⟨hreplay, -⟩ := hevolved.events_replay "articles"
  rw [hnames] at hreplay
  exact ⟨hevolved, by decide +kernel, hreplay⟩

end Store

end VersionedStore
