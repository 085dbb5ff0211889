import VersionedStore.Collection.Find
import VersionedStore.Server.Collation

/-!
# Commands to a server

What a database server is told when an index is created or documents are found there: the same as
the in-memory store, in the terms of the server.
-/

set_option autoImplicit false

namespace VersionedStore

/-- An index as a server is told to create it. -/
structure IndexCommand where
  keys : Document
  name : String
  unique : Bool
  sparse : Bool
  /-- Milliseconds after which documents expire. -/
  expireAfter : Option Nat

/-- The command that creates an index under a name. -/
def IndexDefinition.command (definition : IndexDefinition) (name : String) : IndexCommand :=
  ⟨definition.keys, name, definition.unique, definition.sparse, definition.expireAfter⟩

/-- A find as a server is told to do it. -/
structure FindCommand where
  sort : Option Document
  skip : Option Nat
  limit : Option Int
  projection : Option Document
  collation : Option Collation

/-- The command of find options, the collation of which has to be a valid one. -/
def FindOptions.command (options : FindOptions) : Result FindCommand := do
  let collation ←
    match options.collation with
    | none => pure none
    | some document => (Collation.ofDocument document).map some
  pure ⟨options.sort, options.skip, options.limit, options.projection, collation⟩

end VersionedStore
