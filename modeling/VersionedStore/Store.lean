import VersionedStore.Collection.Find
import VersionedStore.Text.Quoted

/-!
# The in-memory store

A store is a set of named collections in a database.  A collection comes into being with its
first write, and until then reads as an empty one.
-/

set_option autoImplicit false

namespace VersionedStore

/-- The database of a store that is built without one. -/
def defaultDatabase : String := "memory"

/-- Collections by name, with the source of the ids that the store gives to documents. -/
structure Store where
  database : String := defaultDatabase
  collections : NameMap Collection := ∅
  ids : IdSource

namespace Store

/-- A collection with its database, as errors and listings of indexes show it. -/
def spaceOf (database collection : String) : String := database ++ "." ++ collection

/-- The names of the collections that have come into being, in increasing order. -/
def collectionNames (store : Store) : List String := store.collections.names

/-- Drops a collection with its documents and its indexes. -/
def dropCollection (store : Store) (name : String) : Store :=
  { store with collections := store.collections.erase name }

/-- The documents of a collection, in insertion order. -/
def documents (store : Store) (name : String) : List Document :=
  ((store.collections.get? name).map Collection.documents).getD []

/-- What happened to the indexes of a collection, the oldest first. -/
def events (store : Store) (name : String) : List IndexEvent :=
  ((store.collections.get? name).map Collection.events).getD []

/-- The form of a store in logs. -/
def logText (store : Store) : String :=
  "InMemoryStore \x7b database: " ++ Text.quote store.database ++ ", .. \x7d"

/-- The form of a handle to a collection in logs. -/
def collectionLogText (store : Store) (name : String) : String :=
  "InMemoryCollection \x7b namespace: " ++ Text.quote (spaceOf store.database name) ++
    ", .. \x7d"

end Store

end VersionedStore
