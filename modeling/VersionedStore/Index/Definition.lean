import VersionedStore.Value.Comparand

/-!
# Index definitions

An index covers some fields, which its keys name in order.  A unique index keeps two documents
from having the same values there; a sparse one passes over documents that have none of the
fields; and documents may expire some time after the instant in an indexed field.
-/

set_option autoImplicit false

namespace VersionedStore

/-- The keys and options of an index. -/
structure IndexDefinition where
  keys : Document
  unique : Bool := false
  sparse : Bool := false
  /-- Milliseconds after which documents expire. -/
  expireAfter : Option Nat := none

/-- Whether two definitions say the same.  The order of the keys does not count. -/
def IndexDefinition.sameAs (a b : IndexDefinition) : Bool :=
  (Value.document a.keys).equals (.document b.keys) && a.unique == b.unique &&
    a.sparse == b.sparse && a.expireAfter == b.expireAfter

/-- The fields that an index covers, as paths. -/
def IndexDefinition.paths (definition : IndexDefinition) : List String :=
  Document.names definition.keys

/-- The name of the index on the identifying field, which every collection has by itself. -/
def primaryIndex : String := "_id_"

/-- What happened to an index of a collection. -/
inductive IndexEvent where
  | created (name : String)
  | dropped (name : String)
  deriving DecidableEq

end VersionedStore
