import VersionedStore.Index.Declaration
import VersionedStore.Session.Handle

/-!
# Bringing indexes up to date

`reconcile` makes the indexes of a collection what declarations say.  Indexes are compared by
bare name: one that is missing is created, one of another version is dropped and created anew,
and one of the same version is left alone.  It stops at the first failure and keeps what it has
done until then.
-/

set_option autoImplicit false

namespace VersionedStore

/-- The indexes among those listed that have been declared once, with their bare names. -/
def parseListed : List ListedIndex → Result (List (String × ExistingIndex))
  | [] => .ok []
  | index :: rest =>
    if index.name = primaryIndex then parseListed rest
    else do
      let parsed ← ExistingIndex.parse index.space index.name
      let others ← parseListed rest
      pure (parsed :: others)

/-- The indexes of a collection by bare name, without the one on the identifying field.  Of two
with one bare name, the later in the listing counts. -/
def existingIndexes : Action (NameMap ExistingIndex) := do
  let collection ← Action.collectionName
  let listed ← Action.listIndexes.during s!"list indexes of {collection}"
  let parsed ← Action.ofResult (parseListed listed)
  pure (NameMap.ofList parsed)

namespace IndexDeclaration

/-- Creates the declared index. -/
def create (declaration : IndexDeclaration) : Action Unit :=
  (Action.createIndex declaration.definition declaration.storedName).during
    ("create index [" ++ declaration.label ++ "]")

/-- Drops the index of another version that the declared one takes the place of. -/
def dropOld (declaration : IndexDeclaration) (existing : ExistingIndex) : Action Unit :=
  (Action.dropIndex existing.storedName).during
    ("update index [" ++ declaration.label ++ "], drop old version [" ++
      Integer.write existing.version.toInt ++ "]")

/-- Brings the index of one declaration up to date. -/
def apply (existing : NameMap ExistingIndex) (declaration : IndexDeclaration) : Action Unit :=
  match existing.get? declaration.name with
  | none => declaration.create
  | some index =>
    if index.version = declaration.version then pure ()
    else do
      declaration.dropOld index
      declaration.create

/-- Brings the indexes of declarations up to date, one after the other. -/
def applyEach (existing : NameMap ExistingIndex) : List IndexDeclaration → Action Unit
  | [] => pure ()
  | declaration :: rest => do
    declaration.apply existing
    applyEach existing rest

end IndexDeclaration

/-- Makes the indexes of a collection what declarations say. -/
def reconcile (declarations : List IndexDeclaration) : Action Unit := do
  let existing ← existingIndexes
  IndexDeclaration.applyEach existing declarations

end VersionedStore
