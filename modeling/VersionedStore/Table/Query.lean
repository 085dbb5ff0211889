import VersionedStore.Params.Compile
import VersionedStore.Selection
import VersionedStore.Session.Handle

/-!
# Paged queries

A paged query finds the documents that a filter matches and returns those in a window, each
decoded into a row, together with the number of all.

* `Table.Query.options`: the find options of a query, after its window has been checked.
* `Table.Query.run`: the page of a query.
* `Table.Request.run`: the same for a request, whose parameters are compiled by rules first.
-/

set_option autoImplicit false

namespace VersionedStore.Table

/-- Some of the rows that match, and the number of all. -/
structure Page (α : Type) where
  count : Nat
  rows : List α

/-- A filter with a window on what it matches. -/
structure Query where
  filter : Document
  sort : List String := []
  /-- The number of rows to pass over. -/
  start : Int64 := 0
  /-- The number of rows to return; zero means all. -/
  limit : Int64 := 0
  included : List String := []
  excluded : List String := []
  collation : Option Document := none

/-- A number of rows, unless it is zero. -/
def positive? (n : Nat) : Option Nat := if n = 0 then none else some n

/-- Decodes documents into rows. -/
def decodeEach {α : Type} (decode : Document → Result α) : List Document → Result (List α)
  | [] => .ok []
  | document :: rest => do
    let row ← decode document
    let rows ← decodeEach decode rest
    pure (row :: rows)

namespace Query

/-- The find options of a query.  The window must not be negative, and a projection cannot both
include and exclude. -/
def options (query : Query) : Result FindOptions := do
  if query.start < 0 then throw (.validation (.negativeStart query.start))
  if query.limit < 0 then throw (.validation (.negativeLimit query.limit))
  let projection ← projectionOf query.included query.excluded
  pure
    { sort := sortOf query.sort
      skip := positive? query.start.toInt.toNat
      limit := (positive? query.limit.toInt.toNat).map Int.ofNat
      projection := projection
      collation := query.collation }

/-- The page of a query. -/
def run {α : Type} (decode : Document → Result α) (query : Query) : Action (Page α) := do
  let options ← Action.ofResult query.options
  let collection ← Action.collectionName
  let count ← (Action.count query.filter).during s!"count documents of {collection}"
  let cursor ← (Action.find query.filter options).during s!"find in {collection}"
  let rows ← Action.ofResult (decodeEach decode cursor.documents)
  match cursor.fault with
  | none => pure ⟨count, rows⟩
  | some error => Action.ofResult (Result.during s!"read from {collection}" (.error error))

end Query

/-- What a client asks of a table: parameters, sort keys and a window. -/
structure Request where
  query : Document := []
  sort : List String := []
  start : Int64 := 0
  limit : Int64 := 0

namespace Request

/-- The window of a request must not be negative. -/
def validate (request : Request) : Result Unit := do
  if request.limit < 0 then throw (.validation (.negativeLimit request.limit))
  if request.start < 0 then throw (.validation (.negativeStart request.start))

/-- The page of a request. -/
def run {α : Type} (rules : RuleSet) (strict : Bool) (decode : Document → Result α)
    (request : Request) : Action (Page α) := do
  Action.ofResult request.validate
  let compiled ← Action.ofResult (Params.compile request.query rules strict)
  Query.run decode
    { filter := compiled.filterOrAll
      sort := request.sort
      start := request.start
      limit := request.limit }

end Request

end VersionedStore.Table
