import VersionedStore.Index.Reconcile
import VersionedStore.Proofs.Store.Reachable

/-!
# Reconciliations in the life of a store

Indexes are created and dropped one by one, and they are brought up to date in runs of several
calls, which may stop at any of them.  What a run leaves, wherever it stopped, is what some single
changes leave, so that it leads from a reachable store to a reachable one.

* `Handle.Continues`: a handle later on.
* `Action.ReconcileClosed`: what holds of a reconciliation if it holds of its calls.
* `Action.LeadsOn`: an action that makes nothing but changes.
* `Action.LeadsOn.bind`: one action after the other.
* `reconcile_leadsOn`: bringing indexes up to date is such an action.
* `Store.Evolved.reachable`: changes and reconciliations lead to reachable stores only.
-/

set_option autoImplicit false

namespace VersionedStore

/-- A handle later on: to the same collection and under the same faults.  A collection that has
come into being is still there. -/
structure Handle.Continues (before after : Handle) : Prop where
  database : after.database = before.database
  name : after.name = before.name
  faults : after.faults = before.faults
  present : before.content.isSome = true → after.content.isSome = true

namespace Handle.Continues

/-- What is later than something later is later. -/
theorem trans {before middle after : Handle} (h : before.Continues middle)
    (h' : middle.Continues after) : before.Continues after :=
  ⟨h'.database.trans h.database, h'.name.trans h.name, h'.faults.trans h.faults,
    h'.present ∘ h.present⟩

/-- Making calls without touching the collection. -/
theorem of_calls (handle : Handle) (calls : List Call) :
    handle.Continues { handle with calls := calls } := ⟨rfl, rfl, rfl, id⟩

end Handle.Continues

namespace Session

/-- A handle that has been adopted is what the session gives access with. -/
theorem handle_adopt_of_continues {session : Session} {name : String} {after : Handle}
    (h : (session.handle name).Continues after) :
    (session.adopt name after).handle name = after := by
  have hcontent : after.content.or (session.handle name).content = after.content := by
    cases hafter : after.content with
    | some collection => rfl
    | none =>
      cases hbefore : (session.handle name).content with
      | none => rfl
      | some collection =>
        have hpresent := h.present (by rw [hbefore]; rfl)
        rw [hafter] at hpresent
        exact absurd hpresent Bool.false_ne_true
  rw [handle_adopt, hcontent]
  simp only [← h.database, ← h.name, ← h.faults]

/-- Of two handles to a collection that are adopted one after the other, the later counts. -/
theorem adopt_adopt (session : Session) (name : String) {middle after : Handle}
    (hpresent : middle.content.isSome = true → after.content.isSome = true) :
    (session.adopt name middle).adopt name after = session.adopt name after := by
  unfold adopt
  cases hafter : after.content with
  | none =>
    cases hmiddle : middle.content with
    | none => rfl
    | some collection =>
      rw [hmiddle, hafter] at hpresent
      exact absurd (hpresent rfl) Bool.false_ne_true
  | some collection =>
    cases hmiddle : middle.content with
    | none => rfl
    | some earlier =>
      have hinsert : (session.store.collections.insert name earlier).insert name collection =
          session.store.collections.insert name collection := by
        apply NameMap.ext_get?
        intro other
        rw [NameMap.get?_insert, NameMap.get?_insert, NameMap.get?_insert]
        split <;> rfl
      simp only [hinsert]

end Session

namespace Action

variable {α β : Type}

/-- What holds of each call that bringing indexes up to date makes, and of several if it holds of
each of them. -/
structure ReconcileClosed (P : ∀ α : Type, Action α → Prop) : Prop where
  ofResult : ∀ {α : Type} (result : Result α), P α (Action.ofResult result)
  collectionName : P String Action.collectionName
  during : ∀ {α : Type} {action : Action α}, P α action →
    ∀ context : String, P α (action.during context)
  bind : ∀ {α β : Type} {action : Action α} {next : α → Action β}, P α action →
    (∀ value, P β (next value)) → P β (action >>= next)
  listIndexes : P (List ListedIndex) Action.listIndexes
  createIndex : ∀ declaration : IndexDeclaration,
    P Unit (Action.createIndex declaration.definition declaration.storedName)
  dropIndex : ∀ name : String, P Unit (Action.dropIndex name)

namespace ReconcileClosed

variable {P : ∀ α : Type, Action α → Prop}

/-- What is closed under building a run holds of creating a declared index. -/
theorem create (hP : ReconcileClosed P) (declaration : IndexDeclaration) :
    P Unit declaration.create :=
  hP.during (hP.createIndex declaration) _

/-- What is closed under building a run holds of bringing one declaration up to date. -/
theorem apply (hP : ReconcileClosed P) (existing : NameMap ExistingIndex)
    (declaration : IndexDeclaration) : P Unit (declaration.apply existing) := by
  unfold IndexDeclaration.apply
  split
  · exact hP.create declaration
  · rename_i index _
    split
    · exact hP.ofResult (.ok ())
    · exact hP.bind (hP.during (hP.dropIndex index.storedName) _) fun _ => hP.create declaration

/-- What is closed under building a run holds of bringing declarations up to date. -/
theorem applyEach (hP : ReconcileClosed P) (existing : NameMap ExistingIndex)
    (declarations : List IndexDeclaration) :
    P Unit (IndexDeclaration.applyEach existing declarations) := by
  induction declarations with
  | nil => exact hP.ofResult (.ok ())
  | cons declaration rest ih => exact hP.bind (hP.apply existing declaration) fun _ => ih

/-- What is closed under building a run holds of reading the indexes. -/
theorem existingIndexes (hP : ReconcileClosed P) :
    P (NameMap ExistingIndex) VersionedStore.existingIndexes := by
  refine hP.bind hP.collectionName fun collection => ?_
  refine hP.bind (hP.during hP.listIndexes _) fun listed => ?_
  refine hP.bind (hP.ofResult (parseListed listed)) fun parsed => ?_
  exact hP.ofResult (.ok (NameMap.ofList parsed))

/-- It holds of a whole run, for any declarations. -/
theorem reconcile (hP : ReconcileClosed P) (declarations : List IndexDeclaration) :
    P Unit (VersionedStore.reconcile declarations) :=
  hP.bind hP.existingIndexes fun existing => hP.applyEach existing declarations

end ReconcileClosed

/-- An action that works on its collection only, and of which any part leads from a reachable store
to a reachable one. -/
structure LeadsOn (action : Action α) : Prop where
  continues : ∀ handle : Handle, handle.Continues (action.outcome handle).2
  reachable : ∀ (session : Session) (name : String), session.store.Reachable →
    (session.on name action).2.store.Reachable

namespace LeadsOn

/-- An action that changes nothing but the log. -/
theorem of_calls {action : Action α}
    (h : ∀ handle, ∃ calls, (action.outcome handle).2 = { handle with calls := calls }) :
    action.LeadsOn where
  continues handle := by
    obtain ⟨calls, hcalls⟩ := h handle
    rw [hcalls]
    exact .of_calls handle calls
  reachable session name hreachable := by
    obtain ⟨calls, hcalls⟩ := h (session.handle name)
    rw [Session.on_eq, hcalls, Session.adopt_calls]
    exact hreachable

/-- An action that gives a result only leads on. -/
theorem ofResult (result : Result α) : (Action.ofResult result).LeadsOn :=
  of_calls fun handle => ⟨handle.calls, rfl⟩

/-- Wrapping the error of an action leaves what it does alone. -/
theorem during {action : Action α} (h : action.LeadsOn) (context : String) :
    (action.during context).LeadsOn :=
  ⟨h.continues, h.reachable⟩

/-- Two actions, one after the other. -/
theorem bind {action : Action α} {next : α → Action β} (h : action.LeadsOn)
    (hnext : ∀ value, (next value).LeadsOn) : (action >>= next).LeadsOn where
  continues handle := by
    rcases hfirst : action.outcome handle with ⟨result, middle⟩
    have hmiddle : handle.Continues middle := by simpa [hfirst] using h.continues handle
    cases result with
    | error error =>
      rw [outcome_bind_error hfirst]
      exact hmiddle
    | ok value =>
      rw [outcome_bind_ok hfirst]
      exact hmiddle.trans ((hnext value).continues middle)
  reachable session name hreachable := by
    rcases hfirst : action.outcome (session.handle name) with ⟨result, middle⟩
    have hmiddle : (session.handle name).Continues middle := by
      simpa [hfirst] using h.continues (session.handle name)
    have hreached : (session.adopt name middle).store.Reachable := by
      simpa [Session.on_eq, hfirst] using h.reachable session name hreachable
    cases result with
    | error error =>
      rw [Session.on_eq, outcome_bind_error hfirst]
      exact hreached
    | ok value =>
      -- The second action runs on the handle that the first has left.
      have hsecond := (hnext value).reachable (session.adopt name middle) name hreached
      rw [Session.on_eq, Session.handle_adopt_of_continues hmiddle,
        Session.adopt_adopt session name ((hnext value).continues middle).present] at hsecond
      rw [Session.on_eq, outcome_bind_ok hfirst]
      exact hsecond

/-- Listing the indexes leads on. -/
theorem listIndexes : Action.listIndexes.LeadsOn := by
  refine of_calls fun handle => ⟨(handle.logged .listIndexes).calls, ?_⟩
  unfold Action.listIndexes
  rw [outcome_perform]
  split <;> rfl

/-- Creating an index leads on. -/
theorem createIndex (definition : IndexDefinition) (index : String) :
    (Action.createIndex definition index).LeadsOn where
  continues handle := by
    unfold Action.createIndex
    rw [outcome_perform]
    split
    · exact ⟨rfl, rfl, rfl, id⟩
    · split
      · exact ⟨rfl, rfl, rfl, id⟩
      · simp only
        split <;> exact ⟨rfl, rfl, rfl, fun _ => rfl⟩
  reachable session name hreachable :=
    .change session (.createIndex name definition index) hreachable

/-- Dropping an index leads on. -/
theorem dropIndex (index : String) : (Action.dropIndex index).LeadsOn where
  continues handle := by
    unfold Action.dropIndex
    rw [outcome_perform]
    split
    · exact ⟨rfl, rfl, rfl, id⟩
    · split
      · exact ⟨rfl, rfl, rfl, id⟩
      · split
        · exact ⟨rfl, rfl, rfl, id⟩
        · exact ⟨rfl, rfl, rfl, fun _ => rfl⟩
  reachable session name hreachable := .change session (.dropIndex name index) hreachable

end LeadsOn

end Action

/-- Bringing indexes up to date makes nothing but changes, wherever it stops. -/
theorem reconcile_leadsOn (declarations : List IndexDeclaration) :
    (reconcile declarations).LeadsOn := by
  have hclosed : Action.ReconcileClosed fun _ action => action.LeadsOn :=
    { ofResult := .ofResult
      collectionName := .of_calls fun handle => ⟨handle.calls, rfl⟩
      during := .during
      bind := .bind
      listIndexes := .listIndexes
      createIndex := fun declaration => .createIndex declaration.definition declaration.storedName
      dropIndex := .dropIndex }
  exact hclosed.reconcile declarations

/-- The stores that changes and reconciliations lead to from a fresh one.  Either may fail, and its
session brings any log of calls and any plan of faults. -/
inductive Store.Evolved : Store → Prop
  | fresh (database : String) (ids : IdSource) : Evolved { database := database, ids := ids }
  | change (session : Session) (change : Change) :
    Evolved session.store → Evolved (change.run session).store
  | reconcile (session : Session) (collection : String) (declarations : List IndexDeclaration) :
    Evolved session.store → Evolved (session.on collection (reconcile declarations)).2.store

/-- A sequence of changes leads on. -/
theorem Store.Evolved.foldl_run (changes : List Change) {session : Session}
    (h : session.store.Evolved) : (changes.foldl Change.run session).store.Evolved := by
  induction changes generalizing session with
  | nil => exact h
  | cons change rest ih => exact ih (.change session change h)

/-- Reconciliations lead to no other stores than changes do. -/
theorem Store.Evolved.reachable {store : Store} (h : store.Evolved) : store.Reachable := by
  induction h with
  | fresh database ids => exact .fresh database ids
  | change session change _ ih => exact .change session change ih
  | reconcile session collection declarations _ ih =>
    exact (reconcile_leadsOn declarations).reachable session collection ih

end VersionedStore
