import VersionedStore.Session.Handle

/-!
# Sessions

A session is the use of a store over time: the store, the calls made on it, and the plan of
faults in force.  Actions run on one collection of the store at a time.
-/

set_option autoImplicit false

namespace VersionedStore

/-- A store in use. -/
structure Session where
  store : Store
  /-- The calls so far, the oldest first. -/
  calls : List Call := []
  faults : Faults := .none

namespace Session

/-- The handle to a collection. -/
def handle (session : Session) (name : String) : Handle where
  database := session.store.database
  name := name
  content := session.store.collections.get? name
  ids := session.store.ids
  calls := session.calls
  faults := session.faults

/-- The session after a handle to a collection has been used. -/
def adopt (session : Session) (name : String) (handle : Handle) : Session :=
  { session with
    calls := handle.calls
    store := { session.store with
      ids := handle.ids
      collections :=
        match handle.content with
        | some content => session.store.collections.insert name content
        | none => session.store.collections } }

/-- Runs an action on a collection. -/
def on {α : Type} (session : Session) (name : String) (action : Action α) :
    Result α × Session :=
  let (result, handle) := action.run.run (session.handle name)
  (result, session.adopt name handle)

/-- Runs a computation on a handle that keeps a value of its own beside its result. -/
def onWith {α σ : Type} (session : Session) (name : String)
    (computation : StateM Handle (Result α × σ)) : Result α × σ × Session :=
  let ((result, value), handle) := computation.run (session.handle name)
  (result, value, session.adopt name handle)

end Session

end VersionedStore
