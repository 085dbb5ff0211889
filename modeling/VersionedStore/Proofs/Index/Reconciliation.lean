import VersionedStore.Proofs.Collection.Writes
import VersionedStore.Proofs.Index.Stages
import VersionedStore.Proofs.Store.Reachable

/-!
# Bringing indexes up to date

A run works from a listing that it takes at its start, while it drops and creates indexes.  The
listing stays right about the declarations that are still to come, because each step touches
only the indexes of one bare name.

* `Reconciles`: what a run leaves, for some declarations.
* `Reconciles.cons_ok`, `Reconciles.cons_error`: one declaration and then the rest.
* `IndexDeclaration.apply_reconciles`: one declaration.
* `reconcile_reconciles`: a whole run, whichever calls fail.
* `Session.reconcile_converges`: failed runs and a run that succeeds come to what one run comes
  to.
-/

set_option autoImplicit false

namespace VersionedStore

/-- What changes to indexes leave alone: the documents, the plan of faults, and that the collection
has come into being. -/
structure KeepsDocuments (before after : Handle) : Prop where
  faults : after.faults = before.faults
  documents : after.documents = before.documents
  present : before.content.isSome = true → after.content.isSome = true

/-- What changes nothing leaves the documents alone. -/
theorem KeepsDocuments.refl (handle : Handle) : KeepsDocuments handle handle := ⟨rfl, rfl, id⟩

/-- What leaves the documents alone in each of two steps does so in both. -/
theorem KeepsDocuments.trans {before middle after : Handle} (h : KeepsDocuments before middle)
    (h' : KeepsDocuments middle after) : KeepsDocuments before after :=
  ⟨h'.faults.trans h.faults, h'.documents.trans h.documents, h'.present ∘ h.present⟩

/-- What a run over some declarations leaves of a handle. -/
structure Reconciles (declarations : List IndexDeclaration) (before : Handle)
    (result : Result Unit) (after : Handle) : Prop where
  keeps : KeepsDocuments before after
  partly : PartlyReconciled declarations before.documents before.indexes after.indexes
  settled : result = .ok () → ∀ declaration ∈ declarations,
    declaration.Settled before.documents before.indexes after.indexes
  succeeds : before.faults = .none →
    (∀ declaration ∈ declarations, declaration.isCurrent before.indexes = false →
      declaration.Fits before.documents) → result = .ok ()

namespace Reconciles

variable {declaration : IndexDeclaration} {rest : List IndexDeclaration}
  {before middle after : Handle} {result : Result Unit}

/-- The indexes of all other bare names are as they were. -/
theorem agreeOn {declarations : List IndexDeclaration}
    (h : Reconciles declarations before result after) {bare : String}
    (hbare : ∀ declaration ∈ declarations, declaration.name ≠ bare) :
    AgreeOn bare after.indexes before.indexes := by
  intro stored hstored
  refine h.partly.others stored fun declaration hdeclaration hname => ?_
  exact hbare declaration hdeclaration (Option.some.inj (hname.symm.trans hstored))

/-- A run over no declarations succeeds and changes nothing. -/
theorem nil (before : Handle) : Reconciles [] before (.ok ()) before :=
  ⟨.refl before, PartlyReconciled.refl _ _ _, by simp, fun _ _ => rfl⟩

/-- A run over one declaration. -/
theorem single (hkeeps : KeepsDocuments before after)
    (hothers : ∀ stored, bareName? stored ≠ some declaration.name →
      after.indexes.get? stored = before.indexes.get? stored)
    (hstage : declaration.Stage before.documents before.indexes after.indexes)
    (hsettled : result = .ok () →
      declaration.Settled before.documents before.indexes after.indexes)
    (hsucceeds : before.faults = .none →
      (declaration.isCurrent before.indexes = false → declaration.Fits before.documents) →
        result = .ok ()) :
    Reconciles [declaration] before result after := by
  refine ⟨hkeeps, ⟨?_, ?_⟩, ?_, ?_⟩
  · exact fun stored hstored => hothers stored (hstored declaration List.mem_cons_self)
  · exact List.forall_mem_singleton.2 hstage
  · exact fun hresult => List.forall_mem_singleton.2 (hsettled hresult)
  · exact fun hfaults hfits => hsucceeds hfaults (hfits declaration List.mem_cons_self)

/-- A run goes on behind a declaration that it has settled. -/
theorem cons_ok (hnew : ∀ other ∈ rest, other.name ≠ declaration.name)
    (hfirst : Reconciles [declaration] before (.ok ()) middle)
    (hrest : Reconciles rest middle result after) :
    Reconciles (declaration :: rest) before result after := by
  have hothers : ∀ other ∈ rest, AgreeOn other.name middle.indexes before.indexes :=
    fun other hother => hfirst.agreeOn fun first hmem => by
      rw [List.mem_singleton.1 hmem]
      exact (hnew other hother).symm
  have hagree : AgreeOn declaration.name after.indexes middle.indexes := hrest.agreeOn hnew
  refine ⟨hfirst.keeps.trans hrest.keeps, ⟨?_, ?_⟩, ?_, ?_⟩
  · intro stored hstored
    rw [hrest.partly.others stored fun other hother =>
      hstored other (List.mem_cons_of_mem _ hother)]
    exact hfirst.partly.others stored fun first hmem =>
      hstored first (List.mem_singleton.1 hmem ▸ List.mem_cons_self)
  · intro other hother
    rcases List.mem_cons.1 hother with rfl | hother
    · exact (hfirst.partly.declared other List.mem_cons_self).trans_agreeOn hagree
    · have hstage := hrest.partly.declared other hother
      rw [hfirst.keeps.documents] at hstage
      exact hstage.of_agreeOn (hothers other hother)
  · intro hresult other hother
    rcases List.mem_cons.1 hother with rfl | hother
    · exact (hfirst.settled rfl other List.mem_cons_self).trans_agreeOn hagree
    · have hsettled := hrest.settled hresult other hother
      rw [hfirst.keeps.documents] at hsettled
      exact hsettled.of_agreeOn (hothers other hother)
  · intro hfaults hfits
    refine hrest.succeeds (hfirst.keeps.faults.trans hfaults) fun other hother houtdated => ?_
    rw [hfirst.keeps.documents]
    rw [IndexDeclaration.isCurrent_congr (hothers other hother)] at houtdated
    exact hfits other (List.mem_cons_of_mem _ hother) houtdated

/-- A run that fails at a declaration leaves the others alone. -/
theorem cons_error (hnew : ∀ other ∈ rest, other.name ≠ declaration.name) {error : Error}
    (hfirst : Reconciles [declaration] before (.error error) after) :
    Reconciles (declaration :: rest) before (.error error) after := by
  refine ⟨hfirst.keeps, ⟨?_, ?_⟩, by simp, ?_⟩
  · intro stored hstored
    exact hfirst.partly.others stored fun first hmem =>
      hstored first (List.mem_singleton.1 hmem ▸ List.mem_cons_self)
  · intro other hother
    rcases List.mem_cons.1 hother with rfl | hother
    · exact hfirst.partly.declared other List.mem_cons_self
    · refine .kept (hfirst.agreeOn fun first hmem => ?_)
      rw [List.mem_singleton.1 hmem]
      exact (hnew other hother).symm
  · intro hfaults hfits
    refine hfirst.succeeds hfaults fun first hmem => ?_
    exact hfits first (List.mem_singleton.1 hmem ▸ List.mem_cons_self)

end Reconciles

namespace IndexDeclaration

/-- Creating an index whose bare name is free fails and changes nothing, or inserts it. -/
theorem outcome_create (declaration : IndexDeclaration) {handle : Handle}
    (habsent : Absent declaration.name handle.indexes) :
    ∃ result after, declaration.create.outcome handle = (result, after) ∧
      KeepsDocuments handle after ∧
      ((∃ error, result = .error error ∧ after.indexes = handle.indexes ∧
          (handle.faults = .none → ¬ declaration.Fits handle.documents)) ∨
        result = .ok () ∧ declaration.Fits handle.documents ∧
          after.indexes = handle.indexes.insert declaration.storedName declaration.definition) := by
  have hfree : (handle.content.getD {}).indexes.get? declaration.storedName = none := by
    rw [← handle.indexes_eq]
    exact habsent declaration.storedName declaration.bareName?_storedName
  have hdocuments := handle.documents_eq
  have hindexes := handle.indexes_eq
  unfold create
  rw [Action.outcome_during]
  unfold Action.createIndex
  rw [Action.outcome_perform]
  cases hfault : handle.faults.call handle.calls.length
      ⟨handle.name, .createIndex declaration.storedName⟩ with
  | some error =>
    refine ⟨_, _, rfl, ⟨rfl, rfl, id⟩, .inl ⟨_, rfl, rfl, ?_⟩⟩
    intro hnone
    simp [hnone, Faults.none] at hfault
  | none =>
    simp only [if_neg declaration.storedName_ne_primaryIndex, Handle.logged_content]
    unfold Collection.createIndex
    simp only [hfree]
    cases hcollides : declaration.definition.unique &&
        Collection.collidesWithin declaration.definition (handle.content.getD {}).documents with
    | true =>
      rw [Bool.and_eq_true] at hcollides
      refine ⟨_, _, rfl, ⟨rfl, hdocuments.symm, fun _ => rfl⟩,
        .inl ⟨_, rfl, hindexes.symm, fun _ hfits => ?_⟩⟩
      have hnone := hfits hcollides.1
      rw [hdocuments, hcollides.2] at hnone
      exact absurd hnone (by simp)
    | false =>
      refine ⟨_, _, rfl, ⟨rfl, hdocuments.symm, fun _ => rfl⟩, .inr ⟨rfl, ?_, ?_⟩⟩
      · intro hunique
        rw [hdocuments]
        rw [hunique, Bool.true_and] at hcollides
        exact hcollides
      · rw [hindexes]
        rfl

/-- Dropping an index that is there fails, if there are faults, and changes nothing, or erases
it. -/
theorem outcome_dropOld (declaration : IndexDeclaration) {index : ExistingIndex} {handle : Handle}
    {definition : IndexDefinition}
    (hthere : handle.indexes.get? index.storedName = some definition) :
    ∃ result after, (declaration.dropOld index).outcome handle = (result, after) ∧
      KeepsDocuments handle after ∧
      ((∃ error, result = .error error ∧ after.indexes = handle.indexes ∧ handle.faults ≠ .none) ∨
        result = .ok () ∧ after.indexes = handle.indexes.erase index.storedName) := by
  unfold dropOld
  rw [Action.outcome_during]
  unfold Action.dropIndex
  rw [Action.outcome_perform]
  cases hfault : handle.faults.call handle.calls.length
      ⟨handle.name, .dropIndex index.storedName⟩ with
  | some error =>
    refine ⟨_, _, rfl, ⟨rfl, rfl, id⟩, .inl ⟨_, rfl, rfl, ?_⟩⟩
    intro hnone
    simp [hnone, Faults.none] at hfault
  | none =>
    cases hcontent : handle.content with
    | none => simp [Handle.indexes, hcontent] at hthere
    | some collection =>
      have hindex : collection.indexes.get? index.storedName = some definition := by
        simpa only [Handle.indexes, hcontent, Option.map_some, Option.getD_some] using hthere
      have hdropped := (@Collection.dropIndex_eq_ok_iff (handle.logged
        (.dropIndex index.storedName)).space index.storedName collection _).2 ⟨⟨_, hindex⟩, rfl⟩
      simp only [Handle.logged_content, hcontent, hdropped]
      refine ⟨_, _, rfl, ⟨rfl, ?_, fun _ => rfl⟩, .inr ⟨rfl, ?_⟩⟩
      · simp only [Handle.documents, hcontent, Option.map_some]
      · simp only [Handle.indexes, hcontent, Option.map_some, Option.getD_some]

/-- Creating the declared index, when nothing has its bare name any more and it was not there
before. -/
theorem create_reconciles {declaration : IndexDeclaration} {before middle : Handle}
    (hkeeps : KeepsDocuments before middle)
    (hothers : ∀ stored, bareName? stored ≠ some declaration.name →
      middle.indexes.get? stored = before.indexes.get? stored)
    (houtdated : declaration.isCurrent before.indexes = false)
    (habsent : Absent declaration.name middle.indexes) :
    Reconciles [declaration] before (declaration.create.outcome middle).1
      (declaration.create.outcome middle).2 := by
  obtain ⟨result, after, houtcome, hcreated, hafter⟩ := declaration.outcome_create habsent
  rw [houtcome]
  rcases hafter with ⟨error, rfl, hindexes, hrefused⟩ | ⟨rfl, hfits, hindexes⟩
  · refine .single (hkeeps.trans hcreated) ?_ ?_ (by simp) ?_
    · intro stored hstored
      rw [hindexes]
      exact hothers stored hstored
    · exact .dropped houtdated (hindexes ▸ habsent)
    · intro hnone hfits
      refine absurd ?_ (hrefused (hkeeps.faults.trans hnone))
      rw [hkeeps.documents]
      exact hfits houtdated
  · rw [hkeeps.documents] at hfits
    have hstands : declaration.Stands after.indexes := by
      intro stored hstored
      rw [hindexes, NameMap.get?_insert, habsent stored hstored]
      rfl
    have hsettled : declaration.Settled before.documents before.indexes after.indexes := by
      rw [Settled, if_neg (by simp [houtdated])]
      exact ⟨hfits, hstands⟩
    refine .single (hkeeps.trans hcreated) ?_ hsettled.stage (fun _ => hsettled) fun _ _ => rfl
    intro stored hstored
    rw [hindexes, NameMap.get?_insert_of_ne]
    · exact hothers stored hstored
    · rintro rfl
      exact hstored declaration.bareName?_storedName

/-- The declared index is there if the one that the listing shows has the declared version. -/
theorem isCurrent_iff_of_shows {declaration : IndexDeclaration}
    {existing : NameMap ExistingIndex} {indexes : NameMap IndexDefinition} {index : ExistingIndex}
    (hshows : Shows existing indexes declaration.name)
    (hexisting : existing.get? declaration.name = some index) :
    declaration.isCurrent indexes = true ↔ index.version = declaration.version := by
  unfold Shows at hshows
  simp only [hexisting] at hshows
  obtain ⟨hparts, ⟨definition, hdefinition⟩, hothers⟩ := hshows
  rw [isCurrent_iff]
  constructor
  · rintro ⟨stored, held, hheld, hstored⟩
    have hname : stored = index.storedName := by
      by_contra hne
      have hnone := hothers stored (bareName?_of_indexParts? hstored) hne
      rw [hheld] at hnone
      exact absurd hnone (by simp)
    rw [hname, hparts, Option.some.injEq, Prod.mk.injEq] at hstored
    exact hstored.2
  · intro hversion
    exact ⟨index.storedName, definition, hdefinition, hversion ▸ hparts⟩

/-- Bringing the index of one declaration up to date. -/
theorem apply_reconciles (declaration : IndexDeclaration) {existing : NameMap ExistingIndex}
    {handle : Handle} (hshows : Shows existing handle.indexes declaration.name) :
    Reconciles [declaration] handle ((declaration.apply existing).outcome handle).1
      ((declaration.apply existing).outcome handle).2 := by
  unfold apply
  cases hexisting : existing.get? declaration.name with
  | none =>
    have habsent : Absent declaration.name handle.indexes := by
      unfold Shows at hshows
      simpa only [hexisting] using hshows
    exact create_reconciles (.refl handle) (fun _ _ => rfl) (isCurrent_of_absent habsent) habsent
  | some index =>
    have hcurrent := isCurrent_iff_of_shows hshows hexisting
    unfold Shows at hshows
    simp only [hexisting] at hshows ⊢
    obtain ⟨hparts, ⟨definition, hdefinition⟩, hothers⟩ := hshows
    by_cases hversion : index.version = declaration.version
    · rw [if_pos hversion]
      have hagree := AgreeOn.refl declaration.name handle.indexes
      refine .single (.refl handle) (fun _ _ => rfl) (.kept hagree) (fun _ => ?_) fun _ _ => rfl
      rw [Settled, if_pos (hcurrent.2 hversion)]
      exact hagree
    · rw [if_neg hversion]
      have houtdated : declaration.isCurrent handle.indexes = false :=
        Bool.eq_false_iff.2 (mt hcurrent.1 hversion)
      obtain ⟨result, middle, hdropped, hkeeps, hmiddle⟩ := declaration.outcome_dropOld hdefinition
      rcases hmiddle with ⟨error, rfl, hindexes, hfailed⟩ | ⟨rfl, hindexes⟩
      · rw [Action.outcome_bind_error hdropped]
        refine .single hkeeps (fun stored _ => by rw [hindexes]) (.kept ?_) (by simp)
          fun hnone => absurd hnone hfailed
        rw [hindexes]
        exact AgreeOn.refl _ _
      · rw [Action.outcome_bind_ok hdropped]
        refine create_reconciles hkeeps ?_ houtdated ?_
        · intro stored hstored
          rw [hindexes, NameMap.get?_erase, if_neg]
          rintro rfl
          exact hstored (bareName?_of_indexParts? hparts)
        · intro stored hstored
          rw [hindexes, NameMap.get?_erase]
          split
          · rfl
          · rename_i hne
            exact hothers stored hstored hne

/-- Bringing the indexes of declarations up to date one after the other, from a listing that is
right about all of them. -/
theorem applyEach_reconciles {existing : NameMap ExistingIndex}
    {declarations : List IndexDeclaration}
    (hdistinct : (declarations.map IndexDeclaration.name).Nodup) {handle : Handle}
    (hshows : ∀ declaration ∈ declarations, Shows existing handle.indexes declaration.name) :
    Reconciles declarations handle ((applyEach existing declarations).outcome handle).1
      ((applyEach existing declarations).outcome handle).2 := by
  induction declarations generalizing handle with
  | nil => exact .nil handle
  | cons declaration rest ih =>
    rw [List.map_cons, List.nodup_cons] at hdistinct
    have hnew : ∀ other ∈ rest, other.name ≠ declaration.name := fun other hother hname =>
      hdistinct.1 (hname ▸ List.mem_map_of_mem hother)
    have hfirst := declaration.apply_reconciles (hshows declaration List.mem_cons_self)
    unfold applyEach
    rcases houtcome : (declaration.apply existing).outcome handle with ⟨result, middle⟩
    rw [houtcome] at hfirst
    cases result with
    | error error =>
      rw [Action.outcome_bind_error houtcome]
      exact hfirst.cons_error hnew
    | ok _ =>
      rw [Action.outcome_bind_ok houtcome]
      refine hfirst.cons_ok hnew (ih hdistinct.2 fun other hother => ?_)
      -- The step has touched no other bare name, so that the listing is right about the rest.
      refine (hshows other (List.mem_cons_of_mem _ hother)).congr (hfirst.agreeOn ?_)
      intro first hmem
      rw [List.mem_singleton.1 hmem]
      exact (hnew other hother).symm

end IndexDeclaration

/-- A whole run over well-named indexes, whichever calls fail. -/
theorem reconcile_reconciles {declarations : List IndexDeclaration}
    (hdistinct : (declarations.map IndexDeclaration.name).Nodup) {handle : Handle}
    (hnames : WellNamed handle.indexes) :
    Reconciles declarations handle ((reconcile declarations).outcome handle).1
      ((reconcile declarations).outcome handle).2 := by
  obtain ⟨result, hlisted, hsucceeds, hshows⟩ := outcome_existingIndexes hnames
  unfold reconcile
  cases result with
  | error error =>
    rw [Action.outcome_bind_error hlisted]
    refine ⟨⟨rfl, rfl, id⟩, PartlyReconciled.refl _ _ _, by simp, fun hnone => ?_⟩
    obtain ⟨existing, hexisting⟩ := hsucceeds hnone
    exact absurd hexisting (by simp)
  | ok existing =>
    rw [Action.outcome_bind_ok hlisted]
    have hloop := @IndexDeclaration.applyEach_reconciles existing declarations hdistinct
      (handle.logged .listIndexes) fun declaration _ => hshows existing rfl declaration.name
    exact ⟨⟨hloop.keeps.faults, hloop.keeps.documents, hloop.keeps.present⟩, hloop.partly,
      hloop.settled, hloop.succeeds⟩

namespace Session

variable {session : Session} {name : String} {declarations : List IndexDeclaration}

/-- A run over declarations under a plan of faults. -/
def reconcile (session : Session) (name : String) (declarations : List IndexDeclaration)
    (faults : Faults) : Result Unit × Session :=
  Session.on { session with faults := faults } name (VersionedStore.reconcile declarations)

/-- The session after a sequence of runs, each under its own plan of faults. -/
def reconcileAll (name : String) (declarations : List IndexDeclaration) :
    Session → List Faults → Session
  | session, [] => session
  | session, faults :: rest =>
    reconcileAll name declarations (session.reconcile name declarations faults).2 rest

/-- What a run leaves of the collection in the session. -/
theorem reconcile_store (hnames : WellNamed (session.store.indexes name))
    (hdistinct : (declarations.map IndexDeclaration.name).Nodup) (faults : Faults) :
    let run := session.reconcile name declarations faults
    run.2.store.documents name = session.store.documents name ∧
      PartlyReconciled declarations (session.store.documents name) (session.store.indexes name)
        (run.2.store.indexes name) ∧
      (run.1 = .ok () → ∀ declaration ∈ declarations, declaration.Settled
        (session.store.documents name) (session.store.indexes name) (run.2.store.indexes name)) ∧
      (faults = .none →
        (∀ declaration ∈ declarations, declaration.isCurrent (session.store.indexes name) = false →
          declaration.Fits (session.store.documents name)) → run.1 = .ok ()) := by
  intro run
  have hrun := @reconcile_reconciles declarations hdistinct
    (handle { session with faults := faults } name) hnames
  generalize houtcome : (VersionedStore.reconcile declarations).outcome
    (handle { session with faults := faults } name) = outcome at hrun
  have heq : run = (outcome.1, adopt { session with faults := faults } name outcome.2) := by
    rw [← houtcome]
    rfl
  rw [heq, documents_adopt hrun.keeps.present, indexes_adopt hrun.keeps.present]
  exact ⟨hrun.keeps.documents, hrun.partly, hrun.settled, hrun.succeeds⟩

/-- After any runs, a run that succeeds leaves what is to stand in the end; and every declared index
that was not there at the start may be created. -/
theorem reconcileAll_store (earlier : List Faults) (last : Faults) {session : Session}
    (hnames : WellNamed (session.store.indexes name))
    (hdistinct : (declarations.map IndexDeclaration.name).Nodup)
    (hlast : ((reconcileAll name declarations session earlier).reconcile name declarations
      last).1 = .ok ()) :
    (∀ stored, (((reconcileAll name declarations session earlier).reconcile name declarations
        last).2.store.indexes name).get? stored =
      reconciled? declarations (session.store.indexes name) stored) ∧
    ∀ declaration ∈ declarations, declaration.isCurrent (session.store.indexes name) = false →
      declaration.Fits (session.store.documents name) := by
  induction earlier generalizing session with
  | nil =>
    obtain ⟨-, hpartly, hsettled, -⟩ := reconcile_store hnames hdistinct last
    refine ⟨hpartly.get?_of_settled (hsettled hlast), ?_⟩
    intro declaration hdeclaration houtdated
    have hstate := hsettled hlast declaration hdeclaration
    rw [IndexDeclaration.Settled, if_neg (by simp [houtdated])] at hstate
    exact hstate.1
  | cons faults rest ih =>
    obtain ⟨hdocuments, hpartly, -, -⟩ := reconcile_store hnames hdistinct faults
    obtain ⟨hindexes, hfits⟩ := ih (hpartly.wellNamed hnames) hlast
    refine ⟨fun stored => (hindexes stored).trans (hpartly.reconciled?_eq stored), ?_⟩
    intro declaration hdeclaration houtdated
    rw [hdocuments] at hfits
    cases hpartly.declared declaration hdeclaration with
    | kept agree =>
      have hstill := (IndexDeclaration.isCurrent_congr agree).trans houtdated
      exact hfits declaration hdeclaration hstill
    | dropped _ absent =>
      exact hfits declaration hdeclaration (IndexDeclaration.isCurrent_of_absent absent)
    | created _ fits _ => exact fits

/-- Take a collection whose indexes are told apart by their bare names, and declarations with
distinct names.  Whichever calls of a run fail, the documents, the indexes of other bare names and
the other collections are as they were, and the indexes are still told apart; since any call may
be the one at which a run ends, this is so between any two calls as well.  If the run succeeds,
the index of each declaration that was there at its version is as it was, and each other declared
index stands alone under its bare name.  And when, after any runs, one succeeds, a single run that
no fault disturbs succeeds from the start and leaves the same indexes. -/
theorem reconcile_converges (hnames : WellNamed (session.store.indexes name))
    (hdistinct : (declarations.map IndexDeclaration.name).Nodup) :
    (∀ faults, let run := session.reconcile name declarations faults
      run.2.store.documents name = session.store.documents name ∧
      (∀ stored, (∀ declaration ∈ declarations, bareName? stored ≠ some declaration.name) →
        (run.2.store.indexes name).get? stored = (session.store.indexes name).get? stored) ∧
      (∀ other, other ≠ name →
        run.2.store.collections.get? other = session.store.collections.get? other) ∧
      WellNamed (run.2.store.indexes name) ∧
      (run.1 = .ok () → ∀ declaration ∈ declarations,
        if declaration.isCurrent (session.store.indexes name) then
          AgreeOn declaration.name (run.2.store.indexes name) (session.store.indexes name)
        else declaration.Stands (run.2.store.indexes name))) ∧
    ∀ (earlier : List Faults) (last : Faults),
      ((reconcileAll name declarations session earlier).reconcile name declarations last).1 =
        .ok () →
      (session.reconcile name declarations .none).1 = .ok () ∧
      ((reconcileAll name declarations session earlier).reconcile name declarations
        last).2.store.indexes name =
          (session.reconcile name declarations .none).2.store.indexes name := by
  refine ⟨?_, ?_⟩
  · intro faults run
    obtain ⟨hdocuments, hpartly, hsettled, -⟩ := reconcile_store hnames hdistinct faults
    refine ⟨hdocuments, hpartly.others, ?_, hpartly.wellNamed hnames, ?_⟩
    · intro other hother
      exact (get?_on _ name other _).trans (if_neg hother)
    · intro hresult declaration hdeclaration
      have hstate := hsettled hresult declaration hdeclaration
      unfold IndexDeclaration.Settled at hstate
      split
      · rename_i hcurrent
        rwa [if_pos hcurrent] at hstate
      · rename_i houtdated
        rw [if_neg houtdated] at hstate
        exact hstate.2
  · intro earlier last hlast
    obtain ⟨hindexes, hfits⟩ := reconcileAll_store earlier last hnames hdistinct hlast
    obtain ⟨-, hpartly, hsettled, hsucceeds⟩ := reconcile_store hnames hdistinct .none
    have honce := hsucceeds rfl hfits
    refine ⟨honce, NameMap.ext_get? fun stored => ?_⟩
    rw [hindexes, hpartly.get?_of_settled (hsettled honce)]

/-! ### A run that is broken off between a drop and a creation -/

/-- An index on one field, in ascending order. -/
def ascending (field : String) : IndexDefinition := { keys := [(field, .int32 1)] }

/-- Declarations of which the first is there in an older version, the second is there, and the third
is missing. -/
def articleIndexes : List IndexDeclaration :=
  [⟨"title", 2, ascending "title", by decide, by decide, by decide⟩,
    ⟨"kind", 1, ascending "kind", by decide, by decide, by decide⟩,
    ⟨"author", 1, { ascending "author" with unique := true }, by decide, by decide, by decide⟩]

/-- Documents with an index of each kind, and one that is not declared. -/
def articleChanges : List Change :=
  [.insert "articles" [[("author", .string "a")], [("author", .string "b")]],
    .createIndex "articles" (ascending "title") "title-1",
    .createIndex "articles" (ascending "kind") "kind-1",
    .createIndex "articles" (ascending "slug") "slug-3"]

/-- A session on that collection. -/
def articleSession : Session :=
  articleChanges.foldl Change.run { store := { database := "db", ids := ⟨⟨0⟩, 0⟩ } }

/-- The indexes of that collection are told apart by their bare names. -/
theorem wellNamed_articleSession : WellNamed (articleSession.store.indexes "articles") := by
  have hnames : (articleSession.store.indexes "articles").names =
      ["kind-1", "slug-3", "title-1"] := by rfl
  have hkind : bareName? "kind-1" = some "kind" := by decide
  have hslug : bareName? "slug-3" = some "slug" := by decide
  have htitle : bareName? "title-1" = some "title" := by decide
  refine ⟨?_, ?_⟩
  · rw [hnames]
    intro stored hstored _
    simp only [List.mem_cons, List.not_mem_nil, or_false] at hstored
    rcases hstored with rfl | rfl | rfl
    · exact ⟨"kind", hkind⟩
    · exact ⟨"slug", hslug⟩
    · exact ⟨"title", htitle⟩
  · rw [hnames]
    intro stored hstored other hother bare hbare hotherBare
    simp only [List.mem_cons, List.not_mem_nil, or_false] at hstored hother
    have hsame : bareName? stored = bareName? other := hbare.trans hotherBare.symm
    rcases hstored with rfl | rfl | rfl <;> rcases hother with rfl | rfl | rfl <;>
      first
      | rfl
      | exact absurd hsame (by decide)

/-- The statement for a run that fails between the drop and the creation of an index, one that fails
at its listing, and one that succeeds. -/
theorem reconcile_converges_after_failures :
    ((articleSession.reconcile "articles" articleIndexes (.failingAt [6])).2.store.indexes
        "articles").names = ["kind-1", "slug-3"] ∧
      ((reconcileAll "articles" articleIndexes articleSession
        [.failingAt [6], .failingAt [7]]).reconcile "articles" articleIndexes
          (.failingAt [])).2.store.indexes "articles" =
        (articleSession.reconcile "articles" articleIndexes .none).2.store.indexes "articles" ∧
      ((articleSession.reconcile "articles" articleIndexes .none).2.store.indexes
        "articles").names = ["author-1", "kind-1", "slug-3", "title-2"] := by
  have hdistinct : (articleIndexes.map IndexDeclaration.name).Nodup := by decide
  have hlast : ((reconcileAll "articles" articleIndexes articleSession
      [.failingAt [6], .failingAt [7]]).reconcile "articles" articleIndexes
        (.failingAt [])).1 = .ok () := by rfl
  obtain ⟨-, hconverges⟩ := reconcile_converges wellNamed_articleSession hdistinct
  obtain ⟨-, hindexes⟩ := hconverges [.failingAt [6], .failingAt [7]] (.failingAt []) hlast
  exact ⟨by rfl, hindexes, by decide +kernel⟩

end Session

end VersionedStore
