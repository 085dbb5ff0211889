import VersionedStore.Record

/-!
# Users

A user has a name and an age.
-/

set_option autoImplicit false

namespace VersionedStore

/-- A user. -/
structure User where
  name : String
  age : Int64

namespace User

/-- The user in a document. -/
def ofDocument (document : Document) : Result User := do
  let name ← Record.required Record.text? document "name"
  let age ← Record.required Record.int64? document "age"
  pure ⟨name, age⟩

/-- The document of a user. -/
def toDocument (user : User) : Document := [("name", .string user.name), ("age", .int64 user.age)]

end User

end VersionedStore
