import VersionedStore.Proofs.Session.Effects

/-!
# The states of a store

A store starts without collections and is changed by writes, by changes to indexes and by the
dropping of collections.  A change may fail, also part way; what it has done then stays done.

* `Change.run`: what a change makes of a session.
* `Store.Reachable`: the stores that any sequence of changes leads to.
* `Store.Reachable.holds`: what the operations on a collection keep holds of every collection of
  a reachable store.
-/

set_option autoImplicit false

namespace VersionedStore

/-- A change to a store, with its arguments. -/
inductive Change where
  | insert (collection : String) (documents : List Document)
  | replace (collection : String) (filter replacement : Document)
  | createIndex (collection : String) (definition : IndexDefinition) (name : String)
  | dropIndex (collection : String) (name : String)
  | dropCollection (collection : String)

/-- The session after a change, whether it succeeds or fails. -/
def Change.run (session : Session) : Change → Session
  | .insert collection documents => (session.on collection (Action.insert documents)).2
  | .replace collection filter replacement =>
    (session.on collection (Action.replace filter replacement)).2
  | .createIndex collection definition name =>
    (session.on collection (Action.createIndex definition name)).2
  | .dropIndex collection name => (session.on collection (Action.dropIndex name)).2
  | .dropCollection collection =>
    { session with store := session.store.dropCollection collection }

/-- The stores that changes lead to from a fresh one.  The session of a change brings any log of
calls and any plan of faults. -/
inductive Store.Reachable : Store → Prop
  | fresh (database : String) (ids : IdSource) : Reachable { database := database, ids := ids }
  | change (session : Session) (change : Change) :
    Reachable session.store → Reachable (change.run session).store

/-- A sequence of changes leads from a reachable store to a reachable one. -/
theorem Store.Reachable.foldl_run (changes : List Change) {session : Session}
    (h : session.store.Reachable) : (changes.foldl Change.run session).store.Reachable := by
  induction changes generalizing session with
  | nil => exact h
  | cons change rest ih => exact ih (.change session change h)

/-- What holds of an empty collection and is kept by every operation on a collection. -/
structure Collection.Invariant (P : Collection → Prop) : Prop where
  empty : P {}
  insertAll : ∀ space ids collection documents, P collection →
    P (Collection.insertAll space ids collection documents).2.2
  replaceFirst : ∀ {space collection filter replacement replaced collection'}, P collection →
    Collection.replaceFirst space collection filter replacement = .ok (replaced, collection') →
    P collection'
  createIndex : ∀ {space collection name definition collection'}, P collection →
    name ≠ primaryIndex →
    Collection.createIndex space collection name definition = .ok collection' → P collection'
  dropIndex : ∀ {space collection name collection'}, P collection →
    Collection.dropIndex space collection name = .ok collection' → P collection'

namespace Collection.Invariant

variable {P : Collection → Prop}

/-- The content of a handle, if there is any, has a property. -/
private def OfContent (P : Collection → Prop) (content : Option Collection) : Prop :=
  ∀ collection, content = some collection → P collection

/-- A property of a collection is one of a handle with that content. -/
private theorem ofContent_some {collection : Collection} (h : P collection) :
    OfContent P (some collection) := by
  rintro _ ⟨⟩
  exact h

/-- A collection that has not come into being has what an empty one has. -/
private theorem getD_content (hP : Collection.Invariant P) {content : Option Collection}
    (h : OfContent P content) : P (content.getD {}) := by
  cases content with
  | none => exact hP.empty
  | some collection => exact h collection rfl

/-- Inserting keeps what every operation on a collection keeps. -/
private theorem insert_content (hP : Collection.Invariant P) {handle : Handle}
    (h : OfContent P handle.content) (documents : List Document) :
    OfContent P ((Action.insert documents).outcome handle).2.content := by
  refine Action.perform_content h fun position => ofContent_some ?_
  exact hP.insertAll _ _ _ documents (hP.getD_content h)

/-- Replacing keeps what every operation on a collection keeps. -/
private theorem replace_content (hP : Collection.Invariant P) {handle : Handle}
    (h : OfContent P handle.content) (filter replacement : Document) :
    OfContent P ((Action.replace filter replacement).outcome handle).2.content := by
  refine Action.perform_content h fun position => ?_
  cases hcontent : handle.content with
  | none => simpa only [Handle.logged_content, hcontent] using h
  | some collection =>
    simp only [Handle.logged_content, hcontent]
    split
    · simpa only [Handle.logged_content, hcontent] using h
    · rename_i replaced collection' hreplaced
      exact ofContent_some (hP.replaceFirst (h collection hcontent) hreplaced)

/-- Creating an index keeps what every operation on a collection keeps. -/
private theorem createIndex_content (hP : Collection.Invariant P) {handle : Handle}
    (h : OfContent P handle.content) (definition : IndexDefinition) (name : String) :
    OfContent P ((Action.createIndex definition name).outcome handle).2.content := by
  refine Action.perform_content h fun position => ?_
  split
  · exact h
  · rename_i hname
    simp only [Handle.logged_content]
    split
    · exact ofContent_some (hP.getD_content h)
    · rename_i collection' hcreated
      exact ofContent_some (hP.createIndex (hP.getD_content h) hname hcreated)

/-- Dropping an index keeps what every operation on a collection keeps. -/
private theorem dropIndex_content (hP : Collection.Invariant P) {handle : Handle}
    (h : OfContent P handle.content) (name : String) :
    OfContent P ((Action.dropIndex name).outcome handle).2.content := by
  refine Action.perform_content h fun position => ?_
  cases hcontent : handle.content with
  | none => simpa only [Handle.logged_content, hcontent] using h
  | some collection =>
    simp only [Handle.logged_content, hcontent]
    split
    · simpa only [Handle.logged_content, hcontent] using h
    · rename_i collection' hdropped
      exact ofContent_some (hP.dropIndex (h collection hcontent) hdropped)

/-- An action that keeps a property of the content of its handle keeps it for every collection of
a store. -/
private theorem on_holds {α : Type} {session : Session} {name : String} {action : Action α}
    (hstore : ∀ other, OfContent P (session.store.collections.get? other))
    (haction : OfContent P (session.handle name).content →
      OfContent P (action.outcome (session.handle name)).2.content) (other : String) :
    OfContent P ((session.on name action).2.store.collections.get? other) := by
  rw [Session.get?_on]
  split
  · intro collection hcollection
    cases hafter : (action.outcome (session.handle name)).2.content with
    | none =>
      rw [hafter, Option.none_or] at hcollection
      exact hstore name collection hcollection
    | some after =>
      rw [hafter, Option.some_or] at hcollection
      exact haction (hstore name) collection (hafter.trans hcollection)
  · exact hstore other

/-- A change of a store keeps what every operation on a collection keeps. -/
private theorem run_holds (hP : Collection.Invariant P) {session : Session} (change : Change)
    (hstore : ∀ other, OfContent P (session.store.collections.get? other)) (other : String) :
    OfContent P ((change.run session).store.collections.get? other) := by
  cases change with
  | insert collection documents =>
    exact on_holds hstore (fun h => hP.insert_content h documents) other
  | replace collection filter replacement =>
    exact on_holds hstore (fun h => hP.replace_content h filter replacement) other
  | createIndex collection definition name =>
    exact on_holds hstore (fun h => hP.createIndex_content h definition name) other
  | dropIndex collection name =>
    exact on_holds hstore (fun h => hP.dropIndex_content h name) other
  | dropCollection collection =>
    intro found hfound
    have hkept : session.store.collections.get? other = some found := by
      simp only [Change.run, Store.dropCollection, NameMap.get?_erase] at hfound
      split at hfound
      · simp at hfound
      · exact hfound
    exact hstore other found hkept

end Collection.Invariant

/-- What every operation keeps holds of every collection of a reachable store. -/
theorem Store.Reachable.holds {P : Collection → Prop} (hP : Collection.Invariant P)
    {store : Store} (hstore : store.Reachable) {name : String} {collection : Collection}
    (hcollection : store.collections.get? name = some collection) : P collection := by
  induction hstore generalizing name collection with
  | fresh database ids => simp at hcollection
  | change session change hbefore ih =>
    exact hP.run_holds change (fun other found hfound => ih hfound) name collection hcollection

end VersionedStore
