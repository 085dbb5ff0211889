import VersionedStore.Store

/-!
# Handles to collections

A `Handle` gives access to one collection.  It logs every call before the call runs, and a plan
of faults may make a call fail in the place of running, or make a cursor break off.

An `Action` is a computation on a handle.  What an action has done stays done when it fails, so
its state is kept beside its error.

* `Action.listIndexes`, `Action.createIndex`, `Action.dropIndex`: the indexes.
* `Action.count`, `Action.find`, `Action.insert`, `Action.replace`: the documents.
-/

set_option autoImplicit false

namespace VersionedStore

/-- The operations on a collection. -/
inductive Operation where
  | listIndexes
  | createIndex (name : String)
  | dropIndex (name : String)
  | count
  | find
  | insert
  | replace
  deriving DecidableEq

/-- The name of an operation. -/
def Operation.name : Operation → String
  | .listIndexes => "list_indexes"
  | .createIndex _ => "create_index"
  | .dropIndex _ => "drop_index"
  | .count => "count"
  | .find => "find"
  | .insert => "insert"
  | .replace => "replace"

/-- The index that an operation is about. -/
def Operation.index? : Operation → Option String
  | .createIndex name => some name
  | .dropIndex name => some name
  | _ => none

/-- An operation on a collection. -/
structure Call where
  collection : String
  operation : Operation
  deriving DecidableEq

/-- The form of a call in logs. -/
def Call.logText (call : Call) : String :=
  let text := call.collection ++ ":" ++ call.operation.name
  match call.operation.index? with
  | some index => text ++ " " ++ index
  | none => text

/-- Which calls fail, given a call and the number of calls before it. -/
structure Faults where
  /-- The error of a call that fails in the place of running. -/
  call : Nat → Call → Option Error
  /-- The number of documents that a cursor returns before it fails, and its error then. -/
  cursor : Nat → Call → Option (Nat × Error)

/-- The plan under which no call fails. -/
def Faults.none : Faults := ⟨fun _ _ => .none, fun _ _ => .none⟩

/-- The documents of a find, read one by one.  A cursor may fail behind its documents. -/
structure Cursor where
  documents : List Document
  fault : Option Error := none

/-- A cursor that fails after some of its documents. -/
def Cursor.breakAfter (cursor : Cursor) (most : Nat) (error : Error) : Cursor :=
  ⟨cursor.documents.take most, some error⟩

/-- Access to one collection. -/
structure Handle where
  database : String
  name : String
  /-- The collection, if it has come into being. -/
  content : Option Collection
  ids : IdSource
  /-- The calls so far, the oldest first. -/
  calls : List Call
  faults : Faults

/-- The collection with its database. -/
def Handle.space (handle : Handle) : String := Store.spaceOf handle.database handle.name

/-- A computation on a handle, which may fail and keeps what it has done then. -/
abbrev Action (α : Type) := ExceptT Error (StateM Handle) α

/-- An index as a listing shows it. -/
structure ListedIndex where
  name : String
  space : String

namespace Action

variable {α : Type}

/-- The action of a function on handles. -/
def ofHandle (run : Handle → Result α × Handle) : Action α := ExceptT.mk (fun handle => run handle)

/-- A result that needs no handle. -/
def ofResult (result : Result α) : Action α := ofHandle fun handle => (result, handle)

/-- Wraps the error of an action with what was being done. -/
def during (context : String) (action : Action α) : Action α :=
  ofHandle fun handle =>
    let (result, handle') := action.run.run handle
    (Result.during context result, handle')

/-- The name of the collection. -/
def collectionName : Action String := ofHandle fun handle => (.ok handle.name, handle)

/-- Logs a call and runs it, unless it is one that fails.  What runs is given the number of
calls before it. -/
def perform (operation : Operation) (run : Nat → Handle → Result α × Handle) : Action α :=
  ofHandle fun handle =>
    let call : Call := ⟨handle.name, operation⟩
    let position := handle.calls.length
    let logged := { handle with calls := handle.calls ++ [call] }
    match handle.faults.call position call with
    | some error => (.error error, logged)
    | none => run position logged

/-- The indexes of the collection: the one on the identifying field, and the others by name. -/
def listIndexes : Action (List ListedIndex) :=
  perform .listIndexes fun _ handle =>
    let others := ((handle.content.map fun content => content.indexes.names).getD [])
    (.ok ((primaryIndex :: others).map fun name => ⟨name, handle.space⟩), handle)

/-- Creates an index under a name, which must not be that of the index on the identifying
field. -/
def createIndex (definition : IndexDefinition) (name : String) : Action Unit :=
  perform (.createIndex name) fun _ handle =>
    if name = primaryIndex then
      (.error (.backend (.reservedIndex name handle.space)), handle)
    else
      let content := handle.content.getD {}
      match content.createIndex handle.space name definition with
      | .error error => (.error error, { handle with content := some content })
      | .ok content => (.ok (), { handle with content := some content })

/-- Drops the index of a name. -/
def dropIndex (name : String) : Action Unit :=
  perform (.dropIndex name) fun _ handle =>
    match handle.content with
    | none => (.error (.backend (.indexMissing name handle.space)), handle)
    | some content =>
      match content.dropIndex handle.space name with
      | .error error => (.error error, handle)
      | .ok content => (.ok (), { handle with content := some content })

/-- Counts the documents that a filter matches. -/
def count (filter : Document) : Action Nat :=
  perform .count fun _ handle =>
    match handle.content with
    | none => (.ok 0, handle)
    | some content => (content.count filter, handle)

/-- Opens a cursor over the documents that a filter matches. -/
def find (filter : Document) (options : FindOptions) : Action Cursor :=
  perform .find fun position handle =>
    let found : Result (List Document) :=
      match handle.content with
      | none => .ok []
      | some content => content.find filter options
    let cursor := found.map fun documents =>
      match handle.faults.cursor position ⟨handle.name, .find⟩ with
      | some (most, error) => Cursor.breakAfter ⟨documents, none⟩ most error
      | none => ⟨documents, none⟩
    (cursor, handle)

/-- Inserts documents; those before one that fails stay. -/
def insert (documents : List Document) : Action Unit :=
  perform .insert fun _ handle =>
    let (result, ids, content) :=
      Collection.insertAll handle.space handle.ids (handle.content.getD {}) documents
    (result, { handle with ids := ids, content := some content })

/-- Replaces the first document that a filter matches, and counts the documents replaced. -/
def replace (filter replacement : Document) : Action Nat :=
  perform .replace fun _ handle =>
    match handle.content with
    | none => (.ok 0, handle)
    | some content =>
      match content.replaceFirst handle.space filter replacement with
      | .error error => (.error error, handle)
      | .ok (replaced, content) => (.ok replaced, { handle with content := some content })

end Action

end VersionedStore
