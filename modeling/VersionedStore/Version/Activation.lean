import VersionedStore.Session
import VersionedStore.Version

/-!
# Activating a versioned collection

A `VersionedCollection` says which version the documents of a collection should have and how
one older document is brought there.  Activation first makes sure that no document is newer, and
then hands every older one to the upgrade, which writes it back itself.  The upgraded documents
stay upgraded if a later one fails, and another activation goes on with the rest.

* `hasHigherVersion`: whether some document is newer than a version.
* `upgradeLower`: hands the older documents to an upgrade, and counts them.
* `VersionedCollection.activate`: both, with the state in which it leaves the collection.
-/

set_option autoImplicit false

namespace VersionedStore

/-- Brings one document up to date and writes it back. -/
abbrev Upgrade := Document → Action Unit

/-- How far the activation of a versioned collection has come. -/
inductive ActivationState where
  /-- It has not been seen whether there are newer documents. -/
  | unchecked
  /-- There are newer documents. -/
  | fatal
  /-- There are no newer documents, and the older ones are being upgraded. -/
  | migrating
  /-- The older documents have been upgraded. -/
  | migrated
  deriving DecidableEq

/-- The name of a state. -/
def ActivationState.name : ActivationState → String
  | .unchecked => "Unchecked"
  | .fatal => "Fatal"
  | .migrating => "Migrating"
  | .migrated => "Migrated"

/-- A collection whose documents should have a certain version. -/
structure VersionedCollection where
  target : Int64
  upgrade : Upgrade
  /-- The collection of the last activation. -/
  attached : Option String := none
  state : ActivationState := .unchecked
  one_le_target : 1 ≤ target

/-- Whether some document is newer than a version. -/
def hasHigherVersion (target : Int64) : Action Bool := do
  let newer ← Action.count (higherVersions target)
  pure (decide (0 < newer))

/-- Hands documents to an upgrade until one fails, and counts on from `done`. -/
def upgradeEach (upgrade : Upgrade) : Nat → List Document → Action Nat
  | done, [] => pure done
  | done, document :: rest => do
    upgrade document
    upgradeEach upgrade (done + 1) rest

/-- Hands the documents below a version to an upgrade, and counts them. -/
def upgradeLower (target : Int64) (upgrade : Upgrade) : Action Nat := do
  let cursor ← (Action.find (lowerVersions target) {}).during "query lower-versioned documents"
  let done ← upgradeEach upgrade 0 cursor.documents
  match cursor.fault with
  | none => pure done
  | some error =>
    Action.ofResult (Result.during "read lower-versioned document" (.error error))

namespace VersionedCollection

/-- Declares a target version, which must be one at least. -/
def declare (target : Int64) (upgrade : Upgrade) : Result VersionedCollection :=
  if h : 1 ≤ target then .ok { target := target, upgrade := upgrade, one_le_target := h }
  else .error (.config (.targetBelowOne target))

/-- Activates a collection on its handle.  The state is kept beside the result. -/
def activateOn (versioned : VersionedCollection) :
    StateM Handle (Result Nat × VersionedCollection) := do
  let name := (← get).name
  let attached := { versioned with attached := some name }
  match ← ((hasHigherVersion versioned.target).during
      "check for higher-versioned documents").run with
  | .error error => pure (.error error, attached)
  | .ok true =>
    pure (.error (.incompatibleVersion name versioned.target), { attached with state := .fatal })
  | .ok false =>
    match ← (upgradeLower versioned.target versioned.upgrade).run with
    | .error error => pure (.error (.migration name error), { attached with state := .migrating })
    | .ok done => pure (.ok done, { attached with state := .migrated })

/-- Attaches a collection and activates it.  The answer is the number of documents handed to
the upgrade. -/
def activate (versioned : VersionedCollection) (session : Session) (name : String) :
    Result Nat × VersionedCollection × Session :=
  session.onWith name versioned.activateOn

/-- Hands the older documents of the attached collection to the upgrade. -/
def migrate (versioned : VersionedCollection) (session : Session) : Result Nat × Session :=
  match versioned.attached with
  | none => (.error (.config .nothingAttached), session)
  | some name => session.on name (upgradeLower versioned.target versioned.upgrade)

/-- The form of a versioned collection in logs. -/
def logText (versioned : VersionedCollection) : String :=
  let collection :=
    match versioned.attached with
    | none => "None"
    | some name => "Some(" ++ Text.quote name ++ ")"
  "VersionedCollection \x7b target_version: " ++ Integer.write versioned.target.toInt ++
    ", collection: " ++ collection ++ ", state: " ++ versioned.state.name ++ " \x7d"

end VersionedCollection

end VersionedStore
