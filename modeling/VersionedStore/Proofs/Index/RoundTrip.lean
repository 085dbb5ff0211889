import VersionedStore.Proofs.Collection.Writes
import VersionedStore.Proofs.Index.Listing
import VersionedStore.Proofs.Store.Evolution

/-!
# Stored names that are read back

What a declaration writes into the stored name of its index is read back from it, and bringing
indexes up to date writes no other names.  So the indexes of a store that nothing else has touched
can always be read, whatever has failed before.

* `IndexDeclaration.parse_storedName`: a declared name and version are read back.
* `Declared`: every stored name is that of a declaration.
* `Action.KeepsDeclared`: an action that keeps this, closed under running one after the other.
* `Store.Reconciled.declared`: it holds of every store that reconciliations lead to.
* `IndexDeclaration.storedName_round_trips`: names and versions go there and back.
-/

set_option autoImplicit false

namespace VersionedStore

namespace IndexDeclaration

/-- What has been declared is what was asked for. -/
theorem eq_of_declare {name : String} {version : Int64} {definition : IndexDefinition}
    {declaration : IndexDeclaration} (h : declare name version definition = .ok declaration) :
    declaration.name = name ∧ declaration.version = version := by
  unfold declare at h
  split at h
  · simp at h
  · split at h
    · simp at h
    · split at h
      · obtain rfl := Except.ok.inj h
        exact ⟨rfl, rfl⟩
      · simp at h

/-- A declared name and version are read back from the stored name, in any place. -/
theorem parse_storedName (declaration : IndexDeclaration) (space : String) :
    ExistingIndex.parse space declaration.storedName =
      .ok (declaration.name, ⟨space, declaration.storedName, declaration.version⟩) :=
  ExistingIndex.parse_of_indexParts? declaration.indexParts?_storedName space

/-- Declarations with one stored name have one name and version. -/
theorem eq_of_storedName_eq {declaration other : IndexDeclaration}
    (h : declaration.storedName = other.storedName) :
    declaration.name = other.name ∧ declaration.version = other.version := by
  have hparts := declaration.indexParts?_storedName
  rw [h, other.indexParts?_storedName] at hparts
  obtain ⟨hname, hversion⟩ := Prod.mk.inj (Option.some.inj hparts)
  exact ⟨hname.symm, hversion.symm⟩

end IndexDeclaration

/-- Every stored name is that of a declaration. -/
def Declared (indexes : NameMap IndexDefinition) : Prop :=
  ∀ stored ∈ indexes.names, ∃ declaration : IndexDeclaration, stored = declaration.storedName

namespace Declared

variable {indexes : NameMap IndexDefinition}

/-- A collection without indexes has only declared names. -/
theorem empty : Declared ∅ := by
  intro stored hstored
  obtain ⟨definition, hdefinition⟩ := (NameMap.mem_names_iff _ stored).1 hstored
  simp at hdefinition

/-- Inserting an index under the stored name of a declaration leaves only declared names. -/
theorem insert (h : Declared indexes) (declaration : IndexDeclaration)
    (definition : IndexDefinition) :
    Declared (indexes.insert declaration.storedName definition) := by
  intro stored hstored
  rcases (NameMap.mem_names_insert _ _ _ _).1 hstored with hnew | hthere
  · exact ⟨declaration, hnew⟩
  · exact h stored hthere

/-- Erasing an index leaves only declared names. -/
theorem erase (h : Declared indexes) (name : String) : Declared (indexes.erase name) :=
  fun stored hstored => h stored ((NameMap.mem_names_erase _ _ _).1 hstored).2

/-- Declared names can be taken apart. -/
theorem spellNames (h : Declared indexes) : SpellNames indexes := by
  intro stored hstored _
  obtain ⟨declaration, rfl⟩ := h stored hstored
  exact ⟨declaration.name, declaration.bareName?_storedName⟩

end Declared

namespace Action

variable {α β : Type}

/-- An action that leaves only declared names where there were only declared names. -/
def KeepsDeclared (action : Action α) : Prop :=
  ∀ handle : Handle, Declared handle.indexes → Declared (action.outcome handle).2.indexes

namespace KeepsDeclared

/-- An action that gives a result only leaves the names as they were. -/
theorem ofResult (result : Result α) : (Action.ofResult result).KeepsDeclared :=
  fun _ h => h

/-- Wrapping the error of an action leaves what it does alone. -/
theorem during {action : Action α} (h : action.KeepsDeclared) (context : String) :
    (action.during context).KeepsDeclared := h

/-- Actions that leave only declared names do so one after the other. -/
theorem bind {action : Action α} {next : α → Action β} (h : action.KeepsDeclared)
    (hnext : ∀ value, (next value).KeepsDeclared) : (action >>= next).KeepsDeclared := by
  intro handle hhandle
  rcases hfirst : action.outcome handle with ⟨result, middle⟩
  have hmiddle : Declared middle.indexes := by simpa [hfirst] using h handle hhandle
  cases result with
  | error error =>
    rw [outcome_bind_error hfirst]
    exact hmiddle
  | ok value =>
    rw [outcome_bind_ok hfirst]
    exact hnext value middle hmiddle

/-- Listing the indexes leaves only declared names. -/
theorem listIndexes : Action.listIndexes.KeepsDeclared := by
  intro handle h
  rcases outcome_listIndexes handle with ⟨-, error, hlisted⟩ | hlisted
  · rw [hlisted]
    exact h
  · rw [hlisted]
    exact h

/-- Creating an index under the stored name of a declaration leaves only declared names. -/
theorem createIndex (declaration : IndexDeclaration) (definition : IndexDefinition) :
    (Action.createIndex definition declaration.storedName).KeepsDeclared := by
  intro handle h
  have hindexes : Declared (handle.content.getD {}).indexes := handle.indexes_eq ▸ h
  unfold Action.createIndex
  rw [outcome_perform]
  split
  · exact h
  · rw [if_neg declaration.storedName_ne_primaryIndex]
    simp only [Handle.logged_content]
    split
    · exact hindexes
    · rename_i collection hcreated
      show Declared collection.indexes
      rcases Collection.createIndex_eq_ok hcreated with ⟨_, -, -, rfl⟩ | ⟨-, -, rfl⟩
      · exact hindexes
      · exact hindexes.insert declaration definition

/-- Dropping an index leaves only declared names, whichever it is. -/
theorem dropIndex (name : String) : (Action.dropIndex name).KeepsDeclared := by
  intro handle h
  unfold Action.dropIndex
  rw [outcome_perform]
  split
  · exact h
  · cases hcontent : handle.content with
    | none =>
      simp only [Handle.logged_content, hcontent]
      exact h
    | some collection =>
      have hindexes : Declared collection.indexes := by
        simpa [Handle.indexes, hcontent] using h
      simp only [Handle.logged_content, hcontent]
      split
      · exact h
      · rename_i remaining hdropped
        obtain ⟨-, rfl⟩ := Collection.dropIndex_eq_ok_iff.1 hdropped
        exact hindexes.erase name

end KeepsDeclared

end Action

/-- Bringing indexes up to date leaves only declared names, wherever it stops. -/
theorem reconcile_keepsDeclared (declarations : List IndexDeclaration) :
    (reconcile declarations).KeepsDeclared := by
  have hclosed : Action.ReconcileClosed fun _ action => action.KeepsDeclared :=
    { ofResult := .ofResult
      collectionName := fun _ h => h
      during := .during
      bind := .bind
      listIndexes := .listIndexes
      createIndex := fun declaration => .createIndex declaration declaration.definition
      dropIndex := .dropIndex }
  exact hclosed.reconcile declarations

/-- The stores that reconciliations lead to from a fresh one.  Each may fail at any call: its session
brings any log of calls and any plan of faults. -/
inductive Store.Reconciled : Store → Prop
  | fresh (database : String) (ids : IdSource) : Reconciled { database := database, ids := ids }
  | reconcile (session : Session) (collection : String) (declarations : List IndexDeclaration) :
    Reconciled session.store → Reconciled (session.on collection (reconcile declarations)).2.store

/-- Reconciliations leave only declared names. -/
theorem Store.Reconciled.declared {store : Store} (h : store.Reconciled) (name : String) :
    Declared (store.indexes name) := by
  -- The store is the last one with another log, and with other indexes in the one collection.
  induction h with
  | fresh database ids => exact .empty
  | reconcile session collection declarations _ ih =>
    by_cases hname : name = collection
    · subst hname
      have hpresent := ((reconcile_leadsOn declarations).continues (session.handle name)).present
      rw [Session.on_eq, Session.indexes_adopt hpresent]
      exact reconcile_keepsDeclared declarations (session.handle name) ih
    · unfold Store.indexes
      rw [Session.get?_on, if_neg hname]
      exact ih

/-- Indexes with declared names can be read if they can be listed. -/
theorem outcome_existingIndexes_of_declared {handle : Handle} (h : Declared handle.indexes) :
    (∃ existing, (existingIndexes.outcome handle).1 = .ok existing) ↔
      ∃ listed, (Action.listIndexes.outcome handle).1 = .ok listed := by
  rcases Action.outcome_listIndexes handle with ⟨-, error, hlisted⟩ | hlisted
  · obtain ⟨error', hread⟩ := outcome_existingIndexes_error hlisted
    simp [hlisted, hread]
  · have hread := outcome_existingIndexes_listed hlisted
    rw [parseListed_primaryIndex handle.space h.spellNames] at hread
    rw [hread, hlisted]
    exact ⟨fun _ => ⟨_, rfl⟩, fun _ => ⟨_, rfl⟩⟩

namespace IndexDeclaration

/-- Names and versions go through stored names and back.  What has been declared is read back from
its stored name, in any place; so that no other name and version are stored under it; and where only
reconciliations have been at work, the indexes of every collection can be read whenever they can be
listed. -/
theorem storedName_round_trips :
    (∀ name version definition declaration,
        declare name version definition = .ok declaration → ∀ space,
          ExistingIndex.parse space declaration.storedName =
            .ok (name, ⟨space, declaration.storedName, version⟩)) ∧
      (∀ declaration other : IndexDeclaration, declaration.storedName = other.storedName →
        declaration.name = other.name ∧ declaration.version = other.version) ∧
      ∀ (session : Session) (collection : String), session.store.Reconciled →
        ((∃ existing, (session.on collection existingIndexes).1 = .ok existing) ↔
          ∃ listed, (session.on collection Action.listIndexes).1 = .ok listed) := by
  refine ⟨?_, ?_, ?_⟩
  · intro name version definition declaration hdeclared space
    obtain ⟨rfl, rfl⟩ := eq_of_declare hdeclared
    exact declaration.parse_storedName space
  · intro declaration other hstored
    exact eq_of_storedName_eq hstored
  · intro session collection hstore
    exact outcome_existingIndexes_of_declared (hstore.declared collection)

/-! ### Names that look like versions -/

/-- A name that ends like a number with a sign, in its greatest version. -/
def signedName : IndexDeclaration :=
  .ofAdmitted "größe +1 " 9223372036854775807 { keys := [("size", .int32 1)] } (Eq.refl true)

/-- The same name and version over another field. -/
def signedNameElsewhere : IndexDeclaration :=
  .ofAdmitted "größe +1 " 9223372036854775807 { keys := [("width", .int32 1)] } (Eq.refl true)

/-- Declarations of that name and of one that is a number. -/
def oddDeclarations : List IndexDeclaration :=
  [signedName, .ofAdmitted "1" 1 { keys := [("title", .int32 1)] } (Eq.refl true)]

/-- A session on a fresh store in which the third call fails. -/
def faultySession : Session where
  store := { database := "db", ids := ⟨⟨0⟩, 0⟩ }
  faults := .failingAt [2]

/-- A session on the store that is left when a run fails at its second creation. -/
def brokenOffSession : Session where
  store := (faultySession.on "articles" (reconcile oddDeclarations)).2.store

/-- The statement for such declarations and that session. -/
theorem storedName_round_trips_signed :
    declare "größe +1 " 9223372036854775807 { keys := [("size", .int32 1)] } = .ok signedName ∧
      ExistingIndex.parse "db.articles" signedName.storedName =
        .ok ("größe +1 ", ⟨"db.articles", signedName.storedName, 9223372036854775807⟩) ∧
      signedName.storedName = signedNameElsewhere.storedName ∧
      signedName.name = signedNameElsewhere.name ∧
      signedName.version = signedNameElsewhere.version ∧
      brokenOffSession.store.Reconciled ∧
      (brokenOffSession.store.indexes "articles").names = ["größe +1 -9223372036854775807"] ∧
      ∃ existing, (brokenOffSession.on "articles" existingIndexes).1 = .ok existing := by
  have hdeclared : declare "größe +1 " 9223372036854775807 { keys := [("size", .int32 1)] } =
      .ok signedName := by rfl
  have hstored : signedName.storedName = signedNameElsewhere.storedName := by rfl
  have hstore : brokenOffSession.store.Reconciled :=
    Store.Reconciled.reconcile faultySession "articles" oddDeclarations (.fresh "db" ⟨⟨0⟩, 0⟩)
  have hlisted : ∃ listed, (brokenOffSession.on "articles" Action.listIndexes).1 = .ok listed :=
    ⟨_, rfl⟩
  obtain ⟨hparsed, hunique, hread⟩ := storedName_round_trips
  obtain ⟨hname, hversion⟩ := hunique signedName signedNameElsewhere hstored
  exact ⟨hdeclared, hparsed _ _ _ _ hdeclared "db.articles", hstored, hname, hversion, hstore,
    by decide +kernel, (hread brokenOffSession "articles" hstore).2 hlisted⟩

end IndexDeclaration

end VersionedStore
