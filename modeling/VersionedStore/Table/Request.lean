import VersionedStore.Json.Extended
import VersionedStore.Json.Reader
import VersionedStore.Table.Query

/-!
# Requests in JSON

A request is written as an object with the fields `query`, `sort`, `start` and `limit`, or as an
array of their values in this order.  What is missing takes its default, and fields of other
names are passed over.
-/

set_option autoImplicit false

namespace VersionedStore.Table.Request

/-- The number of arrays and objects that may stand in each other in a parameter. -/
def mostDepth : Nat := 126

/-- The parameters of a request. -/
def queryOf? (json : Json) : Option Document :=
  if json.depth ≤ mostDepth then json.document? else none

/-- The fields of a request that have been read. -/
structure Found where
  query : Option Document := none
  sort : Option (List String) := none
  start : Option Int64 := none
  limit : Option Int64 := none

/-- The request of the fields that have been read. -/
def Found.request (found : Found) : Request where
  query := found.query.getD []
  sort := found.sort.getD []
  start := found.start.getD 0
  limit := found.limit.getD 0

/-- Adds a field, which must not have been read before. -/
def Found.add? (found : Found) (name : String) (json : Json) : Option Found :=
  match name with
  | "query" =>
    if found.query.isSome then none
    else (queryOf? json).map fun query => { found with query := some query }
  | "sort" =>
    if found.sort.isSome then none
    else json.strings?.map fun sort => { found with sort := some sort }
  | "start" =>
    if found.start.isSome then none
    else json.int64?.map fun start => { found with start := some start }
  | "limit" =>
    if found.limit.isSome then none
    else json.int64?.map fun limit => { found with limit := some limit }
  | _ => some found

/-- Adds the fields of an object. -/
def Found.addFields? : Found → List (List Json.Mark × Json) → Option Found
  | found, [] => some found
  | found, (marks, json) :: rest => do
    let found ← found.add? (← Json.text? marks) json
    found.addFields? rest

/-- The names of the fields of a request, in the order of an array. -/
def fieldNames : List String := ["query", "sort", "start", "limit"]

/-- The request that a tree means. -/
def ofJson? : Json → Option Request
  | .object fields => (Found.addFields? {} fields).map Found.request
  | .array items =>
    if items.length ≤ fieldNames.length then
      ((fieldNames.zip items).foldlM
        (fun (found : Found) field => found.add? field.1 field.2) {}).map Found.request
    else none
  | _ => none

/-- Reads a request. -/
def read (text : String) : Result Request :=
  match (Json.read? text).bind ofJson? with
  | some request => .ok request
  | none => .error (.serialization "the text is not a table request")

/-- The text of a request. -/
def write (request : Request) : String :=
  Json.written
    [("query", (Value.document request.query).json),
      ("sort", Json.writtenArray (request.sort.map Json.quoted)),
      ("start", Integer.write request.start.toInt),
      ("limit", Integer.write request.limit.toInt)]

end VersionedStore.Table.Request
