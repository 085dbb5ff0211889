import VersionedStore.Index.Reconcile
import VersionedStore.Version.Activation

/-!
# Components

A component owns collections.  For each it declares the indexes and, if the collection is
versioned, the version of its documents.  Starting a component binds all its collections to the
store, and then brings the indexes and the version of each up to date, in the order of their
names.  The first failure ends the start; it is wrapped with the name of its collection.
-/

set_option autoImplicit false

namespace VersionedStore

/-- A collection of a component. -/
structure ManagedCollection where
  indexes : List IndexDeclaration := []
  version : Option VersionedCollection := none
  /-- Whether the collection has been bound to the store. -/
  bound : Bool := false

/-- Named collections that are started together. -/
structure Component where
  name : String
  collections : NameMap ManagedCollection := ∅

namespace ManagedCollection

/-- How far the activation of the version has come, if there is one. -/
def versionState (managed : ManagedCollection) : Option ActivationState :=
  managed.version.map VersionedCollection.state

/-- Brings the indexes of a collection up to date, and then its version. -/
def start (name : String) (managed : ManagedCollection) (session : Session) :
    Result Unit × ManagedCollection × Session :=
  match session.on name (reconcile managed.indexes) with
  | (.error error, session) => (.error error, managed, session)
  | (.ok (), session) =>
    match managed.version with
    | none => (.ok (), managed, session)
    | some version =>
      let (result, version, session) := version.activate session name
      (result.map fun _ => (), { managed with version := some version }, session)

/-- Starts a collection; an error is wrapped with its name. -/
def activate (name : String) (managed : ManagedCollection) (session : Session) :
    Result Unit × ManagedCollection × Session :=
  let (result, managed, session) := managed.start name session
  (result.mapError (.activation name), managed, session)

end ManagedCollection

namespace Component

/-- Declares a collection, in the place of an earlier declaration of its name. -/
def declare (component : Component) (name : String) (managed : ManagedCollection) : Component :=
  { component with collections := component.collections.insert name managed }

/-- Binds every collection to the store. -/
def bind (component : Component) : Component :=
  { component with
    collections := component.collections.mapValues fun managed => { managed with bound := true } }

/-- Starts a component. -/
def start (component : Component) (session : Session) : Result Unit × Component × Session :=
  let bound := component.bind
  let (result, collections, session) :=
    bound.collections.visit ManagedCollection.activate session
  (result, { bound with collections := collections }, session)

/-- The name under which the store has a collection of the component, once that is bound. -/
def boundName? (component : Component) (name : String) : Option String :=
  match component.collections.get? name with
  | some managed => if managed.bound then some name else none
  | none => none

end Component

end VersionedStore
