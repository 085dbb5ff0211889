import VersionedStore.Component
import VersionedStore.Proofs.Session.Effects
import VersionedStore.Version.FieldChange

/-!
# Starting a component, one collection after the other

A component is started by bringing its collections up to date in the order of their names, until
one of them fails.  Each of them is worked on through a handle of its own: what becomes of it
does not depend on the others, but for the log of calls and the source of ids, and the others
stay as they are.

* `Session.AgreeOff`: the frame of an action, a session but for some collections.
* `ManagedCollection.Runs`: the indexes of one collection and then its version, step by step.
* `ManagedCollection.Runs.of_handle_eq`: a run depends on the handle to its collection alone.
* `Component.Startup`: the runs of some collections until one fails.
* `Component.startup_iff_start`: a start is such a sequence, and no other is.
* `Component.start_sequential`: and each collection is in the state of a run of its own.
-/

set_option autoImplicit false

namespace VersionedStore

namespace Session

variable {α : Type} {name : String}

/-- A session whose log and whose source of ids have gone on. -/
def resumed (session : Session) (calls : List Call) (ids : IdSource) : Session :=
  { session with calls := calls, store := { session.store with ids := ids } }

/-- Away from some collections, a session is as it was but for its log and its source of ids. -/
structure AgreeOff (names : List String) (before after : Session) : Prop where
  database : after.store.database = before.store.database
  faults : after.faults = before.faults
  collections : ∀ other, other ∉ names →
    after.store.collections.get? other = before.store.collections.get? other

/-- A session agrees with itself. -/
theorem AgreeOff.refl (names : List String) (session : Session) : AgreeOff names session session :=
  ⟨rfl, rfl, fun _ _ => rfl⟩

/-- What two runs leave as it was, both together do. -/
theorem AgreeOff.trans {names : List String} {before middle after : Session}
    (h : AgreeOff names before middle) (h' : AgreeOff names middle after) :
    AgreeOff names before after := by
  refine ⟨h'.database.trans h.database, h'.faults.trans h.faults, ?_⟩
  intro other hother
  exact (h'.collections other hother).trans (h.collections other hother)

/-- Agreement away from fewer collections is agreement away from more. -/
theorem AgreeOff.mono {names names' : List String} {before after : Session}
    (h : AgreeOff names before after) (hsub : names ⊆ names') : AgreeOff names' before after := by
  refine ⟨h.database, h.faults, ?_⟩
  intro other hother
  exact h.collections other fun hmem => hother (hsub hmem)

/-- The handles to the other collections are the same, once log and ids are. -/
theorem AgreeOff.handle_resumed {names : List String} {before after : Session}
    (h : AgreeOff names before after) {other : String} (hother : other ∉ names)
    (calls : List Call) (ids : IdSource) :
    (after.resumed calls ids).handle other = (before.resumed calls ids).handle other := by
  unfold handle resumed
  simp only [h.database, h.faults, h.collections other hother]

/-- Taking over a handle changes the collection of that handle only. -/
theorem agreeOff_adopt (session : Session) (name : String) (handle : Handle) :
    AgreeOff [name] session (session.adopt name handle) := by
  refine ⟨rfl, rfl, ?_⟩
  intro other hother
  rw [get?_adopt, if_neg (fun heq => hother (List.mem_singleton.2 heq))]

/-- An action depends on the handle to its collection alone. -/
theorem on_of_handle_eq {session session' : Session}
    (h : session'.handle name = session.handle name) (action : Action α) :
    (session'.on name action).1 = (session.on name action).1 ∧
      (session'.on name action).2.handle name = (session.on name action).2.handle name := by
  rw [on_eq, on_eq, h]
  refine ⟨rfl, ?_⟩
  rw [handle_adopt, handle_adopt, h]

/-- Activation in a session works on the handle of the collection, which the session takes over. -/
theorem activate_eq (session : Session) (name : String) (version : VersionedCollection) :
    version.activate session name =
      ((version.activateOn.run (session.handle name)).1.1,
        (version.activateOn.run (session.handle name)).1.2,
        session.adopt name (version.activateOn.run (session.handle name)).2) := rfl

/-- An activation depends on the handle to its collection alone. -/
theorem activate_of_handle_eq {session session' : Session}
    (h : session'.handle name = session.handle name) (version : VersionedCollection) :
    (version.activate session' name).1 = (version.activate session name).1 ∧
      (version.activate session' name).2.1 = (version.activate session name).2.1 ∧
      (version.activate session' name).2.2.handle name =
        (version.activate session name).2.2.handle name := by
  rw [activate_eq, activate_eq, h]
  refine ⟨rfl, rfl, ?_⟩
  rw [handle_adopt, handle_adopt, h]

end Session

namespace ManagedCollection

/-- Bringing one collection up to date: its indexes are made what it declares, and then its
version is activated if it has one. -/
inductive Runs (name : String) :
    ManagedCollection → Session → Result Unit → ManagedCollection → Session → Prop
  | refused {managed : ManagedCollection} {before after : Session} {error : Error}
      (hindexes : before.on name (reconcile managed.indexes) = (.error error, after)) :
      Runs name managed before (.error error) managed after
  | unversioned {managed : ManagedCollection} {before after : Session}
      (hindexes : before.on name (reconcile managed.indexes) = (.ok (), after))
      (hversion : managed.version = none) :
      Runs name managed before (.ok ()) managed after
  | activated {managed : ManagedCollection} {before middle after : Session}
      {version version' : VersionedCollection} {result : Result ℕ}
      (hindexes : before.on name (reconcile managed.indexes) = (.ok (), middle))
      (hversion : managed.version = some version)
      (hactivate : version.activate middle name = (result, version', after)) :
      Runs name managed before (result.map fun _ => ())
        { managed with version := some version' } after

variable {name : String} {managed managed' : ManagedCollection} {before after : Session}
  {result : Result Unit}

/-- A collection is started by a run of its indexes and its version, and by no other. -/
theorem start_eq_iff :
    managed.start name before = (result, managed', after) ↔
      managed.Runs name before result managed' after := by
  constructor
  · intro hstart
    unfold start at hstart
    split at hstart
    · rename_i error middle hindexes
      obtain ⟨rfl, rfl, rfl⟩ := Prod.mk.injEq .. ▸ hstart
      exact .refused hindexes
    · rename_i middle hindexes
      split at hstart
      · rename_i hversion
        cases hstart
        exact .unversioned hindexes hversion
      · rename_i version hversion
        cases hstart
        exact .activated hindexes hversion rfl
  · intro hruns
    unfold start
    cases hruns with
    | refused hindexes => rw [hindexes]
    | unversioned hindexes hversion => simp only [hindexes, hversion]
    | activated hindexes hversion hactivate => simp only [hindexes, hversion, hactivate]

/-- Bringing a collection up to date is its run, whose error names the collection. -/
theorem activate_of_runs (h : managed.Runs name before result managed' after) :
    managed.activate name before = (result.mapError (.activation name), managed', after) := by
  unfold activate
  rw [start_eq_iff.2 h]

namespace Runs

/-- A run changes its own collection only. -/
theorem agreeOff (h : managed.Runs name before result managed' after) :
    Session.AgreeOff [name] before after := by
  have hon : ∀ {result : Result Unit} {middle : Session},
      before.on name (reconcile managed.indexes) = (result, middle) →
        Session.AgreeOff [name] before middle := by
    intro result middle hindexes
    rw [Session.on_eq] at hindexes
    obtain ⟨-, rfl⟩ := Prod.mk.inj hindexes
    exact before.agreeOff_adopt name _
  cases h with
  | refused hindexes => exact hon hindexes
  | unversioned hindexes _ => exact hon hindexes
  | activated hindexes _ hactivate =>
    rw [Session.activate_eq] at hactivate
    cases hactivate
    exact (hon hindexes).trans (Session.agreeOff_adopt _ name _)

/-- A run leaves a collection bound, or unbound, as it was. -/
theorem bound_eq (h : managed.Runs name before result managed' after) :
    managed'.bound = managed.bound := by
  cases h <;> rfl

/-- A run depends on the handle to its collection alone. -/
theorem of_handle_eq (h : managed.Runs name before result managed' after) {before' : Session}
    (hsame : before'.handle name = before.handle name) :
    ∃ after', managed.Runs name before' result managed' after' ∧
      after'.handle name = after.handle name := by
  obtain ⟨hresult, hhandle⟩ := Session.on_of_handle_eq hsame (reconcile managed.indexes)
  rcases hon : before'.on name (reconcile managed.indexes) with ⟨outcome, middle'⟩
  rw [hon] at hresult hhandle
  cases h with
  | refused hindexes =>
    rw [hindexes] at hresult hhandle
    obtain rfl : outcome = _ := hresult
    exact ⟨middle', .refused hon, hhandle⟩
  | unversioned hindexes hversion =>
    rw [hindexes] at hresult hhandle
    obtain rfl : outcome = _ := hresult
    exact ⟨middle', .unversioned hon hversion, hhandle⟩
  | activated hindexes hversion hactivate =>
    rename_i middle version version' result
    rw [hindexes] at hresult hhandle
    obtain rfl : outcome = _ := hresult
    obtain ⟨hcount, hversion', hafter⟩ := Session.activate_of_handle_eq hhandle version
    rw [hactivate] at hcount hversion' hafter
    refine ⟨(version.activate middle' name).2.2, .activated hon hversion ?_, hafter⟩
    exact Prod.ext hcount (Prod.ext hversion' rfl)

end Runs

end ManagedCollection

namespace Component

/-- Bringing collections up to date, one after the other, until one fails. -/
inductive Startup : List (String × ManagedCollection) → Session → Result Unit →
    List (String × ManagedCollection) → Session → Prop
  | finished (session : Session) : Startup [] session (.ok ()) [] session
  | failed {name : String} {managed managed' : ManagedCollection} {before after : Session}
      {error : Error} {behind : List (String × ManagedCollection)}
      (hrun : managed.Runs name before (.error error) managed' after) :
      Startup ((name, managed) :: behind) before (.error (.activation name error))
        ((name, managed') :: behind) after
  | next {name : String} {managed managed' : ManagedCollection} {before middle after : Session}
      {result : Result Unit} {behind behind' : List (String × ManagedCollection)}
      (hrun : managed.Runs name before (.ok ()) managed' middle)
      (hbehind : Startup behind middle result behind' after) :
      Startup ((name, managed) :: behind) before result ((name, managed') :: behind') after

variable {entries entries' : List (String × ManagedCollection)} {before after : Session}
  {result : Result Unit}

/-- To visit the collections until one fails is to bring them up to date in this way. -/
theorem visitEntries_eq_iff :
    NameMap.visitEntries ManagedCollection.activate entries before = (result, entries', after) ↔
      Startup entries before result entries' after := by
  constructor
  · intro hvisit
    induction entries generalizing before entries' with
    | nil =>
      cases hvisit
      exact .finished _
    | cons entry behind ih =>
      obtain ⟨name, managed⟩ := entry
      rcases hstart : managed.start name before with ⟨outcome, managed', middle⟩
      have hrun := ManagedCollection.start_eq_iff.1 hstart
      rw [NameMap.visitEntries, ManagedCollection.activate_of_runs hrun] at hvisit
      cases outcome with
      | error error =>
        cases hvisit
        exact .failed hrun
      | ok _ =>
        cases hvisit
        exact .next hrun (ih rfl)
  · intro hstartup
    induction hstartup with
    | finished => rfl
    | failed hrun =>
      rw [NameMap.visitEntries, ManagedCollection.activate_of_runs hrun]
      rfl
    | next hrun _ ih =>
      rw [NameMap.visitEntries, ManagedCollection.activate_of_runs hrun]
      simp only [Except.mapError, ih]

namespace Startup

/-- Only the collections that are named change. -/
theorem agreeOff (h : Startup entries before result entries' after) :
    Session.AgreeOff (entries.map Prod.fst) before after := by
  induction h with
  | finished session => exact .refl _ session
  | failed hrun => exact hrun.agreeOff.mono (by simp)
  | next hrun _ ih =>
    exact (hrun.agreeOff.mono (by simp)).trans (ih.mono (List.subset_cons_self _ _))

/-- A sequence of runs keeps the names of the collections and their order. -/
theorem names_eq (h : Startup entries before result entries' after) :
    entries'.map Prod.fst = entries.map Prod.fst := by
  rw [← visitEntries_eq_iff] at h
  have hnames := NameMap.map_fst_visitEntries ManagedCollection.activate entries before
  rwa [h] at hnames

/-- A sequence of runs leaves bound collections bound. -/
theorem bound (h : Startup entries before result entries' after)
    (hbound : ∀ entry ∈ entries, entry.2.bound = true) :
    ∀ entry ∈ entries', entry.2.bound = true := by
  induction h with
  | finished => exact hbound
  | failed hrun =>
    rw [List.forall_mem_cons] at hbound ⊢
    exact ⟨hrun.bound_eq.trans hbound.1, hbound.2⟩
  | next hrun _ ih =>
    rw [List.forall_mem_cons] at hbound ⊢
    exact ⟨hrun.bound_eq.trans hbound.1, ih hbound.2⟩

end Startup

/-- What has become of a collection is what a run of its own leaves of it, one that begins where
all began, with the log and the ids further on. -/
def LeftByRun (before : Session) (entries' : List (String × ManagedCollection)) (after : Session)
    (name : String) (managed : ManagedCollection) (result : Result Unit) : Prop :=
  ∃ calls ids managed' own, managed.Runs name (before.resumed calls ids) result managed' own ∧
    (name, managed') ∈ entries' ∧
    after.store.collections.get? name = own.store.collections.get? name

namespace LeftByRun

variable {names : List String} {middle : Session} {name : String}
  {managed managed' : ManagedCollection}

/-- A run after which other collections have been worked on. -/
theorem of_runs (hrun : managed.Runs name before result managed' middle)
    (hentry : (name, managed') ∈ entries') (hlater : Session.AgreeOff names middle after)
    (hname : name ∉ names) : LeftByRun before entries' after name managed result :=
  ⟨before.calls, before.store.ids, managed', middle, hrun, hentry, hlater.collections name hname⟩

/-- A run before which other collections have been worked on. -/
theorem of_agreeOff (h : LeftByRun middle entries' after name managed result)
    (hearlier : Session.AgreeOff names before middle) (hname : name ∉ names)
    (entry : String × ManagedCollection) :
    LeftByRun before (entry :: entries') after name managed result := by
  obtain ⟨calls, ids, managed', own, hrun, hentry, hcontent⟩ := h
  obtain ⟨own', hrun', hhandle⟩ :=
    hrun.of_handle_eq (hearlier.handle_resumed hname calls ids).symm
  have hsame : own'.store.collections.get? name = own.store.collections.get? name :=
    congrArg Handle.content hhandle
  exact ⟨calls, ids, managed', own', hrun', List.mem_cons_of_mem _ hentry,
    hcontent.trans hsame.symm⟩

end LeftByRun

namespace Startup

/-- In increasing order, the collections behind the first have other names. -/
private theorem names_differ {entry : String × ManagedCollection}
    {behind : List (String × ManagedCollection)}
    (hsorted : (entry :: behind).Pairwise fun a b => a.1 < b.1) :
    entry.1 ∉ behind.map Prod.fst ∧ ∀ other ∈ behind, other.1 ∉ [entry.1] := by
  have hne : ∀ other ∈ behind, other.1 ≠ entry.1 := by
    intro other hother hsame
    have hlt : entry.1 < other.1 := List.rel_of_pairwise_cons hsorted hother
    rw [hsame] at hlt
    exact String.lt_irrefl _ hlt
  refine ⟨?_, fun other hother => by simpa using hne other hother⟩
  intro hmem
  obtain ⟨other, hother, hsame⟩ := List.mem_map.1 hmem
  exact hne other hother hsame

/-- If all collections have been brought up to date, each is in the state of a run of its own. -/
theorem leftByRun_of_ok (h : Startup entries before result entries' after)
    (hsorted : entries.Pairwise fun a b => a.1 < b.1) (hok : result = .ok ()) :
    ∀ entry ∈ entries, LeftByRun before entries' after entry.1 entry.2 (.ok ()) := by
  induction h with
  | finished => simp
  | failed => simp at hok
  | next hrun hbehind ih =>
    obtain ⟨hnew, hne⟩ := names_differ hsorted
    intro entry hentry
    rcases List.mem_cons.1 hentry with rfl | hentry
    · exact .of_runs hrun List.mem_cons_self hbehind.agreeOff hnew
    · -- Its run began behind the first one, which has not touched its collection.
      have hrest := ih (List.pairwise_cons.1 hsorted).2 hok entry hentry
      exact hrest.of_agreeOff hrun.agreeOff (hne entry hentry) _

/-- If one fails, it is in the state of a run of its own that fails, those before it are in the
states of runs that succeed, and those behind it are as they were. -/
theorem leftByRun_of_error (h : Startup entries before result entries' after)
    (hsorted : entries.Pairwise fun a b => a.1 < b.1) {failure : Error}
    (herror : result = .error failure) :
    ∃ name error managed, failure = .activation name error ∧ (name, managed) ∈ entries ∧
      LeftByRun before entries' after name managed (.error error) ∧
      (∀ entry ∈ entries, entry.1 < name →
        LeftByRun before entries' after entry.1 entry.2 (.ok ())) ∧
      ∀ other, name < other →
        after.store.collections.get? other = before.store.collections.get? other ∧
        ∀ managed, (other, managed) ∈ entries' ↔ (other, managed) ∈ entries := by
  induction h with
  | finished => simp at herror
  | @failed name managed managed' before after error behind hrun =>
    refine ⟨name, error, managed, (Except.error.inj herror).symm, List.mem_cons_self,
      .of_runs hrun List.mem_cons_self (.refl [] _) (by simp), ?_, ?_⟩
    · intro entry hentry hlt
      rcases List.mem_cons.1 hentry with rfl | hentry
      · exact absurd hlt (String.lt_irrefl _)
      · have hgt : name < entry.1 := List.rel_of_pairwise_cons hsorted hentry
        exact absurd (String.lt_trans hlt hgt) (String.lt_irrefl _)
    · intro other hlt
      have hne : other ≠ name := fun hsame => String.lt_irrefl _ (hsame ▸ hlt)
      refine ⟨hrun.agreeOff.collections other (by simpa using hne), ?_⟩
      intro managed
      simp [hne]
  | @next first managed managed' before middle after result behind behind' hrun hbehind ih =>
    obtain ⟨hnew, hne⟩ := names_differ hsorted
    obtain ⟨name, error, failed, hfailure, hfailed, hrunFailed, hearlier, hlater⟩ :=
      ih (List.pairwise_cons.1 hsorted).2 herror
    have hfirst : first < name := List.rel_of_pairwise_cons hsorted hfailed
    refine ⟨name, error, failed, hfailure, List.mem_cons_of_mem _ hfailed,
      hrunFailed.of_agreeOff hrun.agreeOff (hne _ hfailed) _, ?_, ?_⟩
    · intro entry hentry hlt
      rcases List.mem_cons.1 hentry with rfl | hentry
      · exact .of_runs hrun List.mem_cons_self hbehind.agreeOff hnew
      · exact (hearlier entry hentry hlt).of_agreeOff hrun.agreeOff (hne entry hentry) _
    · intro other hlt
      obtain ⟨hcontent, hentries⟩ := hlater other hlt
      have hother : other ≠ first :=
        fun hsame => String.lt_irrefl _ (String.lt_trans hfirst (hsame ▸ hlt))
      refine ⟨hcontent.trans (hrun.agreeOff.collections other (by simpa using hother)), ?_⟩
      intro managed
      simp [hother, hentries managed]

end Startup

/-- Binding keeps the names of the collections and their order. -/
theorem names_bind (component : Component) :
    component.bind.collections.entries.map Prod.fst = component.collections.names := by
  unfold bind NameMap.mapValues NameMap.names
  rw [List.map_map]
  rfl

/-- A start is the bringing up to date of the collections, once they are bound. -/
theorem startup_start (component : Component) (session : Session) :
    Startup component.bind.collections.entries session (component.start session).1
      (component.start session).2.1.collections.entries (component.start session).2.2 :=
  visitEntries_eq_iff.1 rfl

/-- And what brings them up to date in this way is a start. -/
theorem startup_iff_start (component : Component) (session : Session) (result : Result Unit)
    (collections : NameMap ManagedCollection) (after : Session) :
    Startup component.bind.collections.entries session result collections.entries after ↔
      component.start session =
        (result, { component.bind with collections := collections }, after) := by
  have hvisit : NameMap.visitEntries ManagedCollection.activate component.bind.collections.entries
      session = ((component.start session).1, (component.start session).2.1.collections.entries,
        (component.start session).2.2) := rfl
  have hstart : component.start session = ((component.start session).1,
      { component.bind with collections := (component.start session).2.1.collections },
      (component.start session).2.2) := rfl
  rw [← visitEntries_eq_iff, hvisit, hstart]
  simp only [Prod.mk.injEq, Component.mk.injEq, NameMap.entries_inj, true_and]

/-- A component has the same collections after a start, whether it fails or not. -/
theorem names_start (component : Component) (session : Session) :
    (component.start session).2.1.collections.names = component.collections.names :=
  (component.startup_start session).names_eq.trans component.names_bind

/-- After a start, every declared collection has a handle. -/
theorem boundName?_start (component : Component) (session : Session) {name : String}
    (hname : name ∈ component.collections.names) :
    (component.start session).2.1.boundName? name = some name := by
  rw [← component.names_start session, NameMap.mem_names_iff] at hname
  obtain ⟨managed, hmanaged⟩ := hname
  have hentry : (name, managed) ∈ (component.start session).2.1.collections.entries :=
    (NameMap.mem_entries_iff _ name managed).2 hmanaged
  have hbound : managed.bound = true := by
    refine (component.startup_start session).bound ?_ (name, managed) hentry
    intro entry hentry
    obtain ⟨original, -, rfl⟩ := List.mem_map.1 hentry
    rfl
  unfold boundName?
  simp only [hmanaged, hbound, if_true]

/-- Starting a component is to bring its collections up to date, in the order of their names, until
one fails.  Afterwards all are bound, and collections of the store that the component has not
declared are as they were.  If the start succeeds each collection is in the state of a run of its
own that succeeds.  If it fails then at one collection, whose error is wrapped with its name; this
collection is in the state of a run of its own that fails with that error, those below it are in the
states of runs that succeed, and those above it have been bound and are as they were otherwise, in
the store and in the component. -/
theorem start_sequential (component : Component) (session : Session) :
    let bound := component.bind.collections.entries
    let result := (component.start session).1
    let started := (component.start session).2.1
    let after := (component.start session).2.2
    (∀ result' collections after',
      Startup bound session result' (NameMap.entries collections) after' ↔
        component.start session =
          (result', { component.bind with collections := collections }, after')) ∧
      (∀ name ∈ component.collections.names, started.boundName? name = some name) ∧
      (∀ name, name ∉ component.collections.names →
        after.store.collections.get? name = session.store.collections.get? name) ∧
      ((result = .ok () ∧ ∀ entry ∈ bound,
          LeftByRun session started.collections.entries after entry.1 entry.2 (.ok ())) ∨
        ∃ name error managed, result = .error (.activation name error) ∧
          (name, managed) ∈ bound ∧
          LeftByRun session started.collections.entries after name managed (.error error) ∧
          (∀ entry ∈ bound, entry.1 < name →
            LeftByRun session started.collections.entries after entry.1 entry.2 (.ok ())) ∧
          ∀ other, name < other →
            after.store.collections.get? other = session.store.collections.get? other ∧
            ∀ managed, (other, managed) ∈ started.collections.entries ↔
              (other, managed) ∈ bound) := by
  intro bound result started after
  have hstartup : Startup bound session result started.collections.entries after :=
    component.startup_start session
  have hsorted : bound.Pairwise fun a b => a.1 < b.1 := component.bind.collections.sorted
  refine ⟨component.startup_iff_start session, fun name => component.boundName?_start session,
    ?_, ?_⟩
  · intro name hname
    apply hstartup.agreeOff.collections name
    rwa [component.names_bind]
  · rcases hresult : result with failure | value
    · right
      obtain ⟨name, error, managed, rfl, hentry, hrun, hearlier, hlater⟩ :=
        hstartup.leftByRun_of_error hsorted hresult
      exact ⟨name, error, managed, rfl, hentry, hrun, hearlier, hlater⟩
    · left
      exact ⟨rfl, hstartup.leftByRun_of_ok hsorted hresult⟩

/-! ### A blog whose articles are newer than it -/

/-- The first version of an index on one field. -/
def fieldIndexed (field : String) (unique : Bool)
    (h : IndexDeclaration.admits field 1 = true) : IndexDeclaration :=
  .ofAdmitted field 1 { keys := [(field, .int32 1)], unique := unique } h

/-- A collection may be declared with the version two, as that of the articles is. -/
theorem one_le_articleVersion : (1 : Int64) ≤ 2 := by decide

/-- A component of three collections, one of which has versions. -/
def blog : Component where
  name := "blog"
  collections := .ofList
    [("articles",
      { indexes := [fieldIndexed "title" false (Eq.refl true)]
        version := some
          { target := 2
            upgrade := FieldChange.upgrade { set := [("meta", .document [("version", .int64 2)])] }
            one_le_target := one_le_articleVersion } }),
    ("accounts", { indexes := [fieldIndexed "email" true (Eq.refl true)] }),
    ("tags", { indexes := [fieldIndexed "name" false (Eq.refl true)] })]

/-- A session with an article. -/
def articleOf (fields : Document) : Session :=
  (Session.on { store := { database := "db", ids := ⟨⟨0⟩, 0⟩ } } "articles"
    (Action.insert [fields])).2

/-- The statement for an article that is newer than its collection. -/
theorem start_sequential_blog :
    let session := articleOf [(idField, .int32 1), ("meta", .document [("version", .int32 5)])]
    (blog.start session).1 =
        .error (.activation "articles" (.incompatibleVersion "articles" 2)) ∧
      (blog.start session).2.1.boundName? "tags" = some "tags" ∧
      (blog.start session).2.2.store.collections.get? "tags" = none ∧
      ∃ managed, LeftByRun session (blog.start session).2.1.collections.entries
        (blog.start session).2.2 "accounts" managed (.ok ()) := by
  intro session
  have hresult : (blog.start session).1 =
      .error (.activation "articles" (.incompatibleVersion "articles" 2)) := by rfl
  obtain ⟨-, hbound, -, houtcome⟩ := start_sequential blog session
  refine ⟨hresult, hbound "tags" (by decide), ?_⟩
  rcases houtcome with ⟨hok, -⟩ | ⟨name, error, managed, herror, -, -, hbelow, habove⟩
  · rw [hresult] at hok
    cases hok
  · rw [hresult] at herror
    cases herror
    refine ⟨(habove "tags" (by decide)).1, _, hbelow (blog.bind.collections.entries.head ?_) ?_ ?_⟩
    · decide
    · exact List.head_mem _
    · decide

end Component

end VersionedStore
