import VersionedStore.Filter
import VersionedStore.Index.Definition
import VersionedStore.NameMap

/-!
# Collections

A collection holds documents in the order in which they came, the indexes that were created on
it, and a log of what happened to its indexes.

* `Collection.checkUnique`: whether a document may stand beside others, given the identifying
  field and the unique indexes.
* `Collection.insertAll`, `Collection.replaceFirst`: the writes.  Both keep every document with
  an identifying field of its own.
* `Collection.createIndex`, `Collection.dropIndex`: the changes to the indexes; each that takes
  effect is logged.

An operation that fails leaves its collection as it was, except that the documents which were
inserted before the one that failed stay.
-/

set_option autoImplicit false

namespace VersionedStore

/-- Documents with their indexes. -/
structure Collection where
  /-- The documents, the oldest first. -/
  documents : List Document := []
  /-- The indexes by stored name, without the one on the identifying field. -/
  indexes : NameMap IndexDefinition := ∅
  /-- What happened to the indexes, the oldest first. -/
  events : List IndexEvent := []

namespace IndexDefinition

/-- What an index compares of a document: the values of its fields, with null for those that
are missing.  A sparse index passes over a document that has none of them. -/
def keyOf (definition : IndexDefinition) (document : Document) : Option Comparand :=
  let values := definition.paths.map fun path => Document.at? document path
  if definition.sparse && values.all Option.isNone then none
  else some (Value.array (values.map fun value => value.getD .null)).comparand

/-- Whether an index holds two documents to be the same. -/
def collide (definition : IndexDefinition) (a b : Document) : Bool :=
  match definition.keyOf a, definition.keyOf b with
  | some key, some other => key.equals other
  | _, _ => false

end IndexDefinition

/-- Whether two documents have the same identity. -/
def sameId (a b : Document) : Bool :=
  match Document.get? a idField, Document.get? b idField with
  | some id, some other => id.looselyEquals other
  | _, _ => false

/-- A document with an identity: its own, or else one that is put in front. -/
def withId (id : Value) (document : Document) : Document :=
  if Document.contains document idField then document
  else Document.withFirst document idField id

namespace Collection

/-- The unique index that keeps a document from standing beside others: that on the identifying
field, or else the first by name. -/
def clash? (indexes : NameMap IndexDefinition) (others : List Document) (document : Document) :
    Option String :=
  if others.any (sameId document) then some primaryIndex
  else
    (indexes.entries.find? fun entry =>
      entry.2.unique && others.any (entry.2.collide document)).map Prod.fst

/-- Fails if a unique index keeps a document from standing beside others. -/
def checkUnique (space : String) (indexes : NameMap IndexDefinition) (others : List Document)
    (document : Document) : Result Unit :=
  match clash? indexes others document with
  | some index => .error (.duplicateKey space index)
  | none => .ok ()

/-- Inserts documents behind the others until one fails.  A document without an identity takes
the next one of a source, which is used up even if the document is refused. -/
def insertAll (space : String) (ids : IdSource) (collection : Collection) :
    List Document → Result Unit × IdSource × Collection
  | [] => (.ok (), ids, collection)
  | document :: rest =>
    let stored := withId (.objectId ids.nextId) document
    let ids' := if Document.contains document idField then ids else ids.advance
    match checkUnique space collection.indexes collection.documents stored with
    | .error error => (.error error, ids', collection)
    | .ok () =>
      insertAll space ids' { collection with documents := collection.documents ++ [stored] } rest

/-- The documents that a filter matches, in their order. -/
def matching (filter : Document) : List Document → Result (List Document)
  | [] => .ok []
  | document :: rest => do
    let matched ← Filter.accepts document filter
    let others ← matching filter rest
    pure (if matched then document :: others else others)

/-- The documents before the first one that a filter matches, that one, and those behind it.  A
mistake in the filter is found on the way only. -/
def splitAtFirst (filter : Document) :
    List Document → Result (Option (List Document × Document × List Document))
  | [] => .ok none
  | document :: rest => do
    if ← Filter.accepts document filter then pure (some ([], document, rest))
    else
      let found ← splitAtFirst filter rest
      pure (found.map fun parts => (document :: parts.1, parts.2))

/-- A replacement for a document, which has to keep its identity. -/
def keepId (space : String) (current replacement : Document) : Result Document :=
  match Document.get? current idField with
  | none => .ok replacement
  | some id =>
    match Document.get? replacement idField with
    | none => .ok (withId id replacement)
    | some requested =>
      if id.looselyEquals requested then .ok replacement
      else .error (.backend (.idChanged space))

/-- Replaces the first document that a filter matches, in its place.  The answer is the number
of documents replaced. -/
def replaceFirst (space : String) (collection : Collection) (filter replacement : Document) :
    Result (Nat × Collection) := do
  match ← splitAtFirst filter collection.documents with
  | none => pure (0, collection)
  | some (before, current, behind) =>
    let stored ← keepId space current replacement
    checkUnique space collection.indexes (before ++ behind) stored
    pure (1, { collection with documents := before ++ stored :: behind })

/-- Whether an index holds two of some documents to be the same. -/
def collidesWithin (definition : IndexDefinition) : List Document → Bool
  | [] => false
  | document :: rest =>
    rest.any (definition.collide document) || collidesWithin definition rest

/-- Creates an index, unless it is there with the same definition already.  A unique index must
fit the documents. -/
def createIndex (space : String) (collection : Collection) (name : String)
    (definition : IndexDefinition) : Result Collection :=
  match collection.indexes.get? name with
  | some existing =>
    if existing.sameAs definition then .ok collection
    else .error (.backend (.indexDiffers name space))
  | none =>
    if definition.unique && collidesWithin definition collection.documents then
      .error (.duplicateKey space name)
    else
      .ok { collection with
        indexes := collection.indexes.insert name definition
        events := collection.events ++ [.created name] }

/-- Drops an index. -/
def dropIndex (space : String) (collection : Collection) (name : String) : Result Collection :=
  if collection.indexes.contains name then
    .ok { collection with
      indexes := collection.indexes.erase name
      events := collection.events ++ [.dropped name] }
  else .error (.backend (.indexMissing name space))

end Collection

end VersionedStore
