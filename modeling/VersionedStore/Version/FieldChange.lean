import VersionedStore.Version.Activation
import VersionedStore.Value.Comparand

/-!
# Upgrades that change fields

Many upgrades only set some fields and take some away.  A `FieldChange` is such an upgrade, said
by the fields.
-/

set_option autoImplicit false

namespace VersionedStore

/-- The upgrade that leaves every document as it is. -/
def Upgrade.nothing : Upgrade := fun _ => pure ()

/-- A change to the fields of a document. -/
structure FieldChange where
  /-- The fields to set, after others have been taken away. -/
  set : Document
  /-- The fields to take away. -/
  unset : List String := []
  /-- The identity of a document that is refused. -/
  refused : Option Value := none
  /-- What an error of the write is wrapped with. -/
  context : Option String := none

namespace FieldChange

/-- The document after the change. -/
def apply (change : FieldChange) (document : Document) : Document :=
  Document.setAll (change.unset.foldl Document.erase document) change.set

/-- Whether a document is refused. -/
def refuses (change : FieldChange) (id : Value) : Bool :=
  match change.refused with
  | some refused => refused.equals id
  | none => false

/-- Writes the changed document back under its identity. -/
def upgrade (change : FieldChange) : Upgrade := fun document => do
  let id := (Document.get? document idField).getD .null
  if change.refuses id then throw (.validation (.other "upgrade refused"))
  let write := Action.replace [(idField, id)] (change.apply document)
  let _ ←
    match change.context with
    | some context => write.during context
    | none => write

end FieldChange

end VersionedStore
