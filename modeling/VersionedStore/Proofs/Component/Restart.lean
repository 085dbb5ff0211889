import VersionedStore.Proofs.Component.Startup
import VersionedStore.Proofs.Index.Idempotence
import VersionedStore.Proofs.Version.Settling

/-!
# Starting a component again

A start that succeeds leaves nothing to do for another one.  Each collection is up to date then: a
listing of its indexes shows those that are declared, and neither of the searches of an activation
finds a document.

* `ManagedCollection.UpToDate`: a collection on which nothing is left to do.
* `ManagedCollection.Runs.upToDate`: a run that succeeds leaves it so.
* `ManagedCollection.UpToDate.start_eq`: a run on such a collection only reads.
* `Component.Startup.of_upToDate`: and so does a start on such collections.
* `Component.restart_changes_nothing`: a start, and another one behind it.
-/

set_option autoImplicit false

namespace VersionedStore

namespace Session

/-- The session with no faults from now on. -/
def faultless (session : Session) : Session := { session with faults := .none }

end Session

namespace ManagedCollection

/-- A collection on which nothing is left to do: its indexes can be read and the declared ones are
those that are shown, and its documents are settled. -/
structure UpToDate (name : String) (managed : ManagedCollection) (store : Store) : Prop where
  named : SpellNames (store.indexes name)
  shown : ∀ declaration ∈ managed.indexes, ∃ stored,
    Shown (store.indexes name) declaration.name stored ∧
      indexParts? stored = some (declaration.name, declaration.version)
  settled : ∀ version, managed.version = some version →
    ∀ document ∈ store.documents name, IsSettled version.target document

/-- What a start asks of a collection, so that there is nothing left to do after it: the declared
indexes have distinct names, those that are there are told apart by their bare names, the identities
are plain, and the upgrade replaces documents. -/
structure Restartable (name : String) (managed : ManagedCollection) (store : Store) : Prop where
  distinct : (managed.indexes.map IndexDeclaration.name).Nodup
  named : WellNamed (store.indexes name)
  plain : ∀ document ∈ store.documents name, ∀ id,
    Document.get? document idField = some id → id.isPlainId = true
  replaces : ∀ version, managed.version = some version → version.upgrade.Replaces version.target

/-- Among indexes that are told apart by their bare names, a declared one that is there is shown. -/
theorem shown_of_isCurrent {declaration : IndexDeclaration} {indexes : NameMap IndexDefinition}
    (hnames : WellNamed indexes) (h : declaration.isCurrent indexes = true) :
    ∃ stored, Shown indexes declaration.name stored ∧
      indexParts? stored = some (declaration.name, declaration.version) := by
  obtain ⟨stored, definition, hdefinition, hparts⟩ := (declaration.isCurrent_iff indexes).1 h
  have hlive : stored ∈ indexes.names := (indexes.mem_names_iff stored).2 ⟨definition, hdefinition⟩
  have hspells := bareName?_of_indexParts? hparts
  refine ⟨stored, ⟨hlive, hspells, ?_⟩, hparts⟩
  intro other hother hbare
  rw [hnames.distinct other hother stored hlive _ hbare hspells]

/-- A run over the indexes that succeeds leaves the declared ones shown, and the documents as they
were. -/
theorem shown_of_reconcile {name : String} {declarations : List IndexDeclaration}
    {before after : Session} (hdistinct : (declarations.map IndexDeclaration.name).Nodup)
    (hnames : WellNamed (before.store.indexes name))
    (h : before.on name (reconcile declarations) = (.ok (), after)) :
    WellNamed (after.store.indexes name) ∧
      after.store.documents name = before.store.documents name ∧
      ∀ declaration ∈ declarations, ∃ stored,
        Shown (after.store.indexes name) declaration.name stored ∧
          indexParts? stored = some (declaration.name, declaration.version) := by
  have hreconciles : Reconciles declarations (before.handle name) _ _ :=
    reconcile_reconciles hdistinct hnames
  rw [Session.on_eq] at h
  obtain ⟨hresult, rfl⟩ := Prod.mk.inj h
  rw [Session.indexes_adopt hreconciles.keeps.present,
    Session.documents_adopt hreconciles.keeps.present]
  have hafter := hreconciles.partly.wellNamed hnames
  refine ⟨hafter, hreconciles.keeps.documents, ?_⟩
  intro declaration hdeclaration
  exact shown_of_isCurrent hafter (hreconciles.settled hresult declaration hdeclaration).isCurrent

/-- An activation that succeeds leaves settled documents, and the indexes as they were. -/
theorem settled_of_activate {name : String} {version version' : VersionedCollection}
    {before after : Session} {count : ℕ} (hreplaces : version.upgrade.Replaces version.target)
    (hids : PlainIds (before.store.documents name))
    (h : version.activate before name = (.ok count, version', after)) :
    after.store.indexes name = before.store.indexes name ∧
      ∀ document ∈ after.store.documents name, IsSettled version.target document := by
  rw [Session.activate_eq] at h
  obtain ⟨hresult, hrest⟩ := Prod.mk.inj h
  obtain ⟨-, rfl⟩ := Prod.mk.inj hrest
  obtain ⟨⟨documents, hcontent⟩, hsettled⟩ :=
    @VersionedCollection.activateOn_settles version (before.handle name) hreplaces count hids
      hresult
  have hpresent : (before.handle name).content.isSome = true →
      (version.activateOn.run (before.handle name)).2.content.isSome = true := by
    rw [hcontent, Option.isSome_map]
    exact id
  refine ⟨?_, ?_⟩
  · rw [Session.indexes_adopt hpresent]
    unfold Handle.indexes
    rw [hcontent, Option.map_map]
    rfl
  · rw [Session.documents_adopt hpresent]
    exact hsettled

variable {name : String} {managed managed' : ManagedCollection}

/-- A run that succeeds leaves nothing to do. -/
theorem Runs.upToDate {before after : Session} {result : Result Unit}
    (hrestartable : managed.Restartable name before.store)
    (hids : PlainIds (before.store.documents name))
    (h : managed.Runs name before result managed' after) (hok : result = .ok ()) :
    managed.UpToDate name after.store := by
  cases h with
  | refused => simp at hok
  | unversioned hindexes hversion =>
    obtain ⟨hnames, -, hshown⟩ :=
      shown_of_reconcile hrestartable.distinct hrestartable.named hindexes
    refine ⟨hnames.named, hshown, ?_⟩
    intro version hsome
    rw [hversion] at hsome
    simp at hsome
  | activated hindexes hversion hactivate =>
    obtain ⟨hnames, hdocuments, hshown⟩ :=
      shown_of_reconcile hrestartable.distinct hrestartable.named hindexes
    obtain ⟨count, rfl, -⟩ := Result.map_eq_ok hok
    rw [← hdocuments] at hids
    obtain ⟨hsame, hsettled⟩ :=
      settled_of_activate (hrestartable.replaces _ hversion) hids hactivate
    refine ⟨?_, ?_, ?_⟩
    · rw [hsame]
      exact hnames.named
    · rw [hsame]
      exact hshown
    · intro version hsome
      rw [hversion] at hsome
      obtain rfl := Option.some.inj hsome
      exact hsettled

/-- The documents that bringing a collection up to date hands to its upgrade. -/
def handOvers (name : String) (managed : ManagedCollection) (session : Session) : List HandOver :=
  match session.on name (reconcile managed.indexes), managed.version with
  | (.ok (), session), some version => version.handOvers (session.handle name)
  | _, _ => []

namespace UpToDate

/-- Only the collection itself decides whether it is up to date. -/
theorem of_get?_eq {store store' : Store} (h : managed.UpToDate name store)
    (hsame : store'.collections.get? name = store.collections.get? name) :
    managed.UpToDate name store' := by
  have hindexes : store'.indexes name = store.indexes name := by
    unfold Store.indexes
    rw [hsame]
  have hdocuments : store'.documents name = store.documents name := by
    unfold Store.documents
    rw [hsame]
  refine ⟨?_, ?_, ?_⟩
  · rw [hindexes]
    exact h.named
  · rw [hindexes]
    exact h.shown
  · rw [hdocuments]
    exact h.settled

/-- Where nothing is left to do, a run succeeds, only reads, and hands over no document. -/
theorem start_eq {session : Session} (h : managed.UpToDate name session.store)
    (hfaults : session.faults = .none) :
    ∃ managed' made,
      managed.start name session =
          (.ok (), managed', { session with calls := session.calls ++ made }) ∧
        (∀ call ∈ made, call.operation.isRead = true) ∧ managed.handOvers name session = [] := by
  have hlisted : ∀ declaration ∈ managed.indexes,
      declaration.isListed (listing (session.handle name).space (session.handle name).indexes) =
        true :=
    fun declaration hdeclaration =>
      IndexDeclaration.isListed_listing_iff.2 (h.shown declaration hdeclaration)
  have houtcome : (reconcile managed.indexes).outcome (session.handle name) =
      (.ok (), (session.handle name).logged .listIndexes) :=
    outcome_reconcile_of_listed hfaults h.named hlisted
  obtain ⟨middle, hmiddle⟩ : ∃ middle : Session,
      middle = { session with calls := session.calls ++ [⟨name, .listIndexes⟩] } := ⟨_, rfl⟩
  have hindexes : session.on name (reconcile managed.indexes) = (.ok (), middle) := by
    rw [Session.on_eq, houtcome, hmiddle]
    exact congrArg (Prod.mk _) (session.adopt_calls name _)
  cases hversion : managed.version with
  | none =>
    refine ⟨managed, [⟨name, .listIndexes⟩], ?_, by simp [Operation.isRead], ?_⟩
    · unfold start
      simp only [hindexes, hversion, hmiddle]
    · unfold handOvers
      simp only [hindexes, hversion]
  | some version =>
    have hmiddleFaults : (middle.handle name).faults = .none := by
      rw [hmiddle]
      exact hfaults
    have hsettled : ∀ document ∈ (middle.handle name).documents,
        IsSettled version.target document := by
      rw [hmiddle]
      exact h.settled version hversion
    obtain ⟨hresult, hafter, hhanded⟩ :=
      VersionedCollection.activateOn_of_settled hmiddleFaults hsettled
    have hactivate : version.activate middle name =
        (.ok 0, (version.activateOn.run (middle.handle name)).1.2,
          { middle with calls := middle.calls ++ [⟨name, .count⟩] ++ [⟨name, .find⟩] }) := by
      rw [Session.activate_eq, hresult, hafter]
      exact congrArg (fun session => (Except.ok 0, _, session)) (middle.adopt_calls name _)
    refine ⟨{ managed with version := some (version.activateOn.run (middle.handle name)).1.2 },
      [⟨name, .listIndexes⟩, ⟨name, .count⟩, ⟨name, .find⟩], ?_, by simp [Operation.isRead], ?_⟩
    · unfold start
      simp only [hindexes, hversion, hactivate]
      rw [hmiddle]
      simp [Except.map]
    · unfold handOvers
      simp only [hindexes, hversion, hhanded]

end UpToDate

/-- The collection as it was declared, before any start. -/
def fresh (managed : ManagedCollection) : ManagedCollection where
  indexes := managed.indexes
  version := managed.version.map fun version =>
    { version with attached := none, state := .unchecked }

end ManagedCollection

namespace Component

/-- The component as it was declared, before any start. -/
def fresh (component : Component) : Component :=
  { component with collections := component.collections.mapValues ManagedCollection.fresh }

/-- The documents that bringing collections up to date, one after the other until one fails, hands to
their upgrades. -/
def handOversOf : List (String × ManagedCollection) → Session → List HandOver
  | [], _ => []
  | (name, managed) :: behind, session =>
    managed.handOvers name session ++
      match managed.start name session with
      | (.ok (), _, session) => handOversOf behind session
      | (.error _, _, _) => []

/-- The documents that a start hands to the upgrades. -/
def handOvers (component : Component) (session : Session) : List HandOver :=
  handOversOf component.bind.collections.entries session

/-- Where nothing is left to do on any collection, a start succeeds, only reads, and hands over no
document. -/
theorem Startup.of_upToDate {entries : List (String × ManagedCollection)} {session : Session}
    (hfaults : session.faults = .none)
    (h : ∀ entry ∈ entries, entry.2.UpToDate entry.1 session.store) :
    ∃ entries' made,
      Startup entries session (.ok ()) entries' { session with calls := session.calls ++ made } ∧
        (∀ call ∈ made, call.operation.isRead = true) ∧ handOversOf entries session = [] := by
  induction entries generalizing session with
  | nil =>
    refine ⟨[], [], ?_, by simp, rfl⟩
    rw [List.append_nil]
    exact .finished session
  | cons entry behind ih =>
    obtain ⟨name, managed⟩ := entry
    rw [List.forall_mem_cons] at h
    obtain ⟨managed', made, hstart, hread, hhanded⟩ := h.1.start_eq hfaults
    obtain ⟨behind', later, hbehind, hlater, hnone⟩ :=
      @ih { session with calls := session.calls ++ made } hfaults h.2
    refine ⟨(name, managed') :: behind', made ++ later, ?_, ?_, ?_⟩
    · rw [← List.append_assoc]
      exact .next (ManagedCollection.start_eq_iff.1 hstart) hbehind
    · intro call hcall
      rcases List.mem_append.1 hcall with hcall | hcall
      · exact hread call hcall
      · exact hlater call hcall
    · unfold handOversOf
      rw [hhanded, hstart, List.nil_append]
      exact hnone

/-- Let a component be started on a reachable store, whichever faults there are, where each of its
collections declares indexes of distinct names, has indexes that are told apart by their bare names
and documents of plain identities, and has an upgrade that replaces each document by one that is
neither below the target nor above it.  If the start succeeds, then starting the component once more
as it was declared succeeds on the store that it leaves, makes no call but such as read, hands no
document to an upgrade, and leaves the whole store as it is. -/
theorem restart_changes_nothing {component : Component} {session : Session}
    (hstore : session.store.Reachable)
    (hrestartable : ∀ entry ∈ component.collections.entries,
      entry.2.Restartable entry.1 session.store)
    (hstart : (component.start session).1 = .ok ()) :
    let first := component.start session
    let again := component.fresh.start first.2.2.faultless
    again.1 = .ok () ∧
      (∃ made, again.2.2.calls = first.2.2.calls ++ made ∧
        ∀ call ∈ made, call.operation.isRead = true) ∧
      component.fresh.handOvers first.2.2.faultless = [] ∧
      again.2.2.store = first.2.2.store := by
  intro first again
  have hruns :=
    (component.startup_start session).leftByRun_of_ok component.bind.collections.sorted hstart
  -- Each collection is as a run of its own has left it, which began at the same collection.
  have hupToDate : ∀ entry ∈ component.collections.entries,
      ManagedCollection.UpToDate entry.1 { entry.2 with bound := true } first.2.2.store := by
    intro entry hentry
    obtain ⟨calls, ids, managed', own, hrun, -, hcontent⟩ :=
      hruns (entry.1, { entry.2 with bound := true }) (List.mem_map_of_mem hentry)
    have hown := hrestartable entry hentry
    have hids := Attempt.plainIds_of_reachable hstore entry.1 hown.plain
    have hbound : ManagedCollection.Restartable entry.1 { entry.2 with bound := true }
        (session.resumed calls ids).store :=
      ⟨hown.distinct, hown.named, hown.plain, hown.replaces⟩
    exact (hrun.upToDate hbound hids rfl).of_get?_eq hcontent
  have hfresh : ∀ entry ∈ component.fresh.bind.collections.entries,
      entry.2.UpToDate entry.1 first.2.2.store := by
    intro entry hentry
    obtain ⟨redeclared, hredeclared, rfl⟩ := List.mem_map.1 hentry
    obtain ⟨original, horiginal, rfl⟩ := List.mem_map.1 hredeclared
    have hdone := hupToDate original horiginal
    refine ⟨hdone.named, hdone.shown, ?_⟩
    intro version hversion
    obtain ⟨declared, hdeclared, rfl⟩ := Option.map_eq_some_iff.1 hversion
    exact hdone.settled declared hdeclared
  obtain ⟨entries', made, hagain, hread, hhanded⟩ :=
    @Startup.of_upToDate _ first.2.2.faultless rfl hfresh
  have hvisit := visitEntries_eq_iff.2 hagain
  have hresult : again.1 = .ok () := congrArg Prod.fst hvisit
  have hsession : again.2.2 =
      { first.2.2.faultless with calls := first.2.2.calls ++ made } :=
    congrArg (fun visited => visited.2.2) hvisit
  rw [hsession]
  exact ⟨hresult, ⟨made, rfl, hread⟩, hhanded, rfl⟩

/-! ### A blog with an article to upgrade -/

/-- A collection without indexes, with plain identities. -/
theorem restartable_of_empty {name : String} {managed : ManagedCollection} {store : Store}
    (hdistinct : (managed.indexes.map IndexDeclaration.name).Nodup)
    (hindexes : store.indexes name = ∅)
    (hplain : ∀ document ∈ store.documents name, ∀ id,
      Document.get? document idField = some id → id.isPlainId = true)
    (hreplaces : ∀ version, managed.version = some version →
      version.upgrade.Replaces version.target) : managed.Restartable name store := by
  have hnone : ∀ stored, stored ∉ (∅ : NameMap IndexDefinition).names := fun _ => List.not_mem_nil
  refine ⟨hdistinct, ?_, hplain, hreplaces⟩
  rw [hindexes]
  exact ⟨fun stored hstored => absurd hstored (hnone stored),
    fun stored hstored => absurd hstored (hnone stored)⟩

/-- A session with an article that has no marker. -/
def oldArticle : Session := articleOf [(idField, .int32 1)]

/-- The statement for that article, which the first start brings to version two. -/
theorem restart_changes_nothing_blog :
    ((blog.start oldArticle).2.2.store.documents "articles").map Document.version = [2] ∧
      (blog.fresh.start (blog.start oldArticle).2.2.faultless).1 = .ok () ∧
      blog.fresh.handOvers (blog.start oldArticle).2.2.faultless = [] ∧
      (blog.fresh.start (blog.start oldArticle).2.2.faultless).2.2.store =
        (blog.start oldArticle).2.2.store := by
  have hstore : oldArticle.store.Reachable :=
    Store.Reachable.foldl_run [.insert "articles" [[(idField, .int32 1)]]] (.fresh "db" ⟨⟨0⟩, 0⟩)
  have hreplaces : Upgrade.Replaces
      (FieldChange.upgrade { set := [("meta", .document [("version", .int64 2)])] }) 2 := by
    refine (FieldChange.writesBack _).replaces fun document => ?_
    exact isSettled_iff.2
      ⟨(Rewrite.marking 2).not_older document, (Rewrite.marking 2).not_newer document⟩
  have hrestartable : ∀ entry ∈ blog.collections.entries,
      entry.2.Restartable entry.1 oldArticle.store := by
    intro entry hentry
    have hnames : entry ∈ [("accounts", _), ("articles", _), ("tags", _)] := hentry
    simp only [List.mem_cons, List.not_mem_nil, or_false] at hnames
    rcases hnames with rfl | rfl | rfl
    · refine restartable_of_empty (by decide) rfl ?_ ?_
      · intro document hdocument
        cases hdocument
      · intro version hversion
        cases hversion
    · refine restartable_of_empty (by decide) rfl ?_ ?_
      · intro document hdocument id hid
        obtain rfl : document = [(idField, .int32 1)] := List.mem_singleton.1 hdocument
        cases hid
        rfl
      · intro version hversion
        cases hversion
        exact hreplaces
    · refine restartable_of_empty (by decide) rfl ?_ ?_
      · intro document hdocument
        cases hdocument
      · intro version hversion
        cases hversion
  have hstart : (blog.start oldArticle).1 = .ok () := Result.eq_ok_of_isOk (by decide +kernel)
  obtain ⟨hagain, -, hhanded, hsame⟩ := restart_changes_nothing hstore hrestartable hstart
  exact ⟨by decide +kernel, hagain, hhanded, hsame⟩

end Component

end VersionedStore
