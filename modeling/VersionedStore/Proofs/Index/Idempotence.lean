import VersionedStore.Proofs.Index.Listing
import VersionedStore.Proofs.Index.Reconciliation

/-!
# Bringing indexes up to date again

A run works from a listing that shows one stored name for each bare name.  Where several stored
names spell a bare name, it drops the one shown and leaves the others, of which another listing may
show one at its next version.  So a second run finds nothing to do only if none of the others comes
behind the declared index.

* `IndexDeclaration.isListed`: whether a listing shows a declared index.
* `IndexDeclaration.Follows`: the stored names of a declared bare name after a run.
* `Updates`: the calls and the stored names of a run that succeeds.
* `applyEach_updates`: declarations, one after the other.
* `reconcile_quiet_iff`: a run makes no call about an index if all declared indexes are listed.
* `Session.reconcile_again_iff`: when a second run does so.
-/

set_option autoImplicit false

namespace VersionedStore

/-- Calls that go on from others without being about an index. -/
def QuietCalls (before after : List Call) : Prop :=
  ∃ made, after = before ++ made ∧ ∀ call ∈ made, call.operation.index? = none

namespace IndexDeclaration

/-- Whether a listing shows a declared index. -/
def isListed (existing : NameMap ExistingIndex) (declaration : IndexDeclaration) : Bool :=
  match existing.get? declaration.name with
  | some index => index.version == declaration.version
  | none => false

/-- A listing shows a declared index if it has the declared version under the declared name. -/
theorem isListed_iff {existing : NameMap ExistingIndex} {declaration : IndexDeclaration} :
    declaration.isListed existing = true ↔
      ∃ index, existing.get? declaration.name = some index ∧
        index.version = declaration.version := by
  unfold isListed
  cases existing.get? declaration.name <;> simp

/-- A listing shows a declared index if the last stored name of its bare name spells it. -/
theorem isListed_listing_iff {declaration : IndexDeclaration} {space : String}
    {indexes : NameMap IndexDefinition} :
    declaration.isListed (listing space indexes) = true ↔
      ∃ stored, Shown indexes declaration.name stored ∧
        indexParts? stored = some (declaration.name, declaration.version) := by
  rw [isListed_iff]
  constructor
  · rintro ⟨index, hindex, hversion⟩
    obtain ⟨hshown, hparts⟩ := shown_of_listing hindex
    exact ⟨index.storedName, hshown, hversion ▸ hparts⟩
  · rintro ⟨stored, hshown, hparts⟩
    obtain ⟨index, hindex, -, hversion⟩ := listing_of_shown hshown hparts space
    exact ⟨index, hindex, hversion⟩

/-- What stored names of a declared bare name there are after a declaration has been brought up to
date: all those before it, if the declared index was listed, and otherwise the declared one in the
place of the one listed. -/
def Follows (existing : NameMap ExistingIndex) (declaration : IndexDeclaration)
    (before after : NameMap IndexDefinition) : Prop :=
  ∀ stored, bareName? stored = some declaration.name →
    (stored ∈ after.names ↔
      if declaration.isListed existing then stored ∈ before.names
      else stored = declaration.storedName ∨ stored ∈ before.names ∧
        ∀ index, existing.get? declaration.name = some index → stored ≠ index.storedName)

namespace Follows

variable {existing : NameMap ExistingIndex} {declaration declaration' : IndexDeclaration}
  {before middle after : NameMap IndexDefinition}

/-- Declarations of one name and version have the same effect. -/
theorem congr (hname : declaration.name = declaration'.name)
    (hversion : declaration.version = declaration'.version)
    (h : declaration.Follows existing before after) :
    declaration'.Follows existing before after := by
  have hlisted : declaration.isListed existing = declaration'.isListed existing := by
    unfold isListed
    rw [hname, hversion]
  have hstored : declaration.storedName = declaration'.storedName := by
    unfold storedName
    rw [hname, hversion]
  unfold Follows at h ⊢
  rwa [hname, hlisted, hstored] at h

/-- Bringing a declaration up to date twice is bringing it up to date. -/
theorem trans (h : declaration.Follows existing before middle)
    (h' : declaration.Follows existing middle after) :
    declaration.Follows existing before after := by
  intro stored hstored
  have hfirst := h stored hstored
  have hsecond := h' stored hstored
  split at hfirst <;> rename_i hlisted
  · rw [if_pos hlisted] at hsecond ⊢
    exact hsecond.trans hfirst
  · rw [if_neg hlisted] at hsecond ⊢
    tauto

/-- What precedes an update without touching the stored names of its bare name adds nothing to
it. -/
theorem of_before
    (hsame : ∀ stored, bareName? stored = some declaration.name →
      (stored ∈ middle.names ↔ stored ∈ before.names))
    (h : declaration.Follows existing middle after) :
    declaration.Follows existing before after := by
  intro stored hstored
  rw [h stored hstored, hsame stored hstored]

/-- What follows an update without touching the stored names of its bare name adds nothing to it. -/
theorem of_after (h : declaration.Follows existing before middle)
    (hsame : ∀ stored, bareName? stored = some declaration.name →
      (stored ∈ after.names ↔ stored ∈ middle.names)) :
    declaration.Follows existing before after := by
  intro stored hstored
  rw [hsame stored hstored, h stored hstored]

end Follows

end IndexDeclaration

/-- What a run over some declarations leaves of a handle, if it succeeds. -/
structure Updates (existing : NameMap ExistingIndex) (declarations : List IndexDeclaration)
    (before after : Handle) : Prop where
  calls : ∃ made, after.calls = before.calls ++ made ∧
    ((∀ call ∈ made, call.operation.index? = none) ↔
      ∀ declaration ∈ declarations, declaration.isListed existing = true)
  declared : (∀ declaration ∈ declarations, ∀ other ∈ declarations,
      declaration.name = other.name → declaration.version = other.version) →
    ∀ declaration ∈ declarations, declaration.Follows existing before.indexes after.indexes
  others : ∀ stored, (∀ declaration ∈ declarations, bareName? stored ≠ some declaration.name) →
    (stored ∈ after.indexes.names ↔ stored ∈ before.indexes.names)
  present : before.content.isSome = true → after.content.isSome = true

namespace Updates

variable {existing : NameMap ExistingIndex} {declaration : IndexDeclaration}
  {rest declarations : List IndexDeclaration} {before middle after : Handle}

/-- A run over no declarations changes nothing. -/
theorem nil (existing : NameMap ExistingIndex) (handle : Handle) :
    Updates existing [] handle handle :=
  ⟨⟨[], by simp, by simp⟩, by simp, by simp, id⟩

/-- A run over declarations is a run over the first and then one over the others. -/
theorem cons (hfirst : Updates existing [declaration] before middle)
    (hrest : Updates existing rest middle after) :
    Updates existing (declaration :: rest) before after := by
  refine ⟨?_, ?_, ?_, hrest.present ∘ hfirst.present⟩
  · obtain ⟨made, hmade, hquiet⟩ := hfirst.calls
    obtain ⟨made', hmade', hquiet'⟩ := hrest.calls
    refine ⟨made ++ made', by rw [hmade', hmade, List.append_assoc], ?_⟩
    rw [List.forall_mem_append, hquiet, hquiet', List.forall_mem_singleton, List.forall_mem_cons]
  · intro hversions
    have hfollows : declaration.Follows existing before.indexes middle.indexes :=
      hfirst.declared (by simp) declaration List.mem_cons_self
    have hrestFollows := hrest.declared fun first hfirst second hsecond =>
      hversions first (List.mem_cons_of_mem _ hfirst) second (List.mem_cons_of_mem _ hsecond)
    rw [List.forall_mem_cons]
    refine ⟨?_, fun other hother => ?_⟩
    · -- A name may be declared again further on, and then with the same version.
      by_cases hagain : ∃ other ∈ rest, other.name = declaration.name
      · obtain ⟨other, hother, hname⟩ := hagain
        have hversion := hversions other (List.mem_cons_of_mem _ hother) declaration
          List.mem_cons_self hname
        exact hfollows.trans ((hrestFollows other hother).congr hname hversion)
      · refine hfollows.of_after fun stored hstored => hrest.others stored fun other hother => ?_
        rw [hstored]
        exact fun hname => hagain ⟨other, hother, (Option.some.inj hname).symm⟩
    · by_cases hname : declaration.name = other.name
      · have hversion := hversions declaration List.mem_cons_self other
          (List.mem_cons_of_mem _ hother) hname
        exact (hfollows.congr hname hversion).trans (hrestFollows other hother)
      · refine (hrestFollows other hother).of_before fun stored hstored =>
          hfirst.others stored fun first hfirst => ?_
        rw [hstored, List.mem_singleton.1 hfirst]
        exact fun hsame => hname (Option.some.inj hsame).symm
  · intro stored hstored
    rw [List.forall_mem_cons] at hstored
    rw [hrest.others stored hstored.2,
      hfirst.others stored (List.forall_mem_singleton.2 hstored.1)]

/-- Indexes that spell their names do so after a run. -/
theorem spellNames (h : Updates existing declarations before after)
    (hnames : SpellNames before.indexes) : SpellNames after.indexes := by
  intro stored hstored hne
  by_cases hdeclared : ∃ declaration ∈ declarations, bareName? stored = some declaration.name
  · obtain ⟨declaration, -, hbare⟩ := hdeclared
    exact ⟨declaration.name, hbare⟩
  · refine hnames stored ((h.others stored fun declaration hdeclaration hbare => ?_).1 hstored) hne
    exact hdeclared ⟨declaration, hdeclaration, hbare⟩

end Updates

namespace IndexDeclaration

/-- Creating an index that succeeds adds its stored name, if it was not there. -/
theorem create_eq_ok {declaration : IndexDeclaration} {handle after : Handle}
    (h : declaration.create.outcome handle = (.ok (), after)) :
    after.calls = handle.calls ++ [⟨handle.name, .createIndex declaration.storedName⟩] ∧
      (∀ stored, stored ∈ after.indexes.names ↔
        stored = declaration.storedName ∨ stored ∈ handle.indexes.names) ∧
      after.content.isSome = true := by
  have hrun := Action.outcome_perform_eq_ok (Action.outcome_during_eq_ok h)
  simp only [if_neg declaration.storedName_ne_primaryIndex, Handle.logged_content] at hrun
  split at hrun
  · simp at hrun
  · rename_i collection hcreated
    obtain ⟨-, rfl⟩ := Prod.mk.inj hrun
    refine ⟨rfl, fun stored => ?_, rfl⟩
    rw [handle.indexes_eq]
    show stored ∈ collection.indexes.names ↔ _
    rcases Collection.createIndex_eq_ok hcreated with ⟨held, hheld, -, rfl⟩ | ⟨-, -, rfl⟩
    · -- The index was there already, with the same definition.
      have hthere := (NameMap.mem_names_iff _ _).2 ⟨held, hheld⟩
      refine ⟨.inr, ?_⟩
      rintro (rfl | hstored)
      · exact hthere
      · exact hstored
    · exact NameMap.mem_names_insert _ _ _ _

/-- Dropping an index that succeeds takes its stored name away. -/
theorem dropOld_eq_ok {declaration : IndexDeclaration} {index : ExistingIndex}
    {handle after : Handle} (h : (declaration.dropOld index).outcome handle = (.ok (), after)) :
    after.calls = handle.calls ++ [⟨handle.name, .dropIndex index.storedName⟩] ∧
      ∀ stored, stored ∈ after.indexes.names ↔
        stored ≠ index.storedName ∧ stored ∈ handle.indexes.names := by
  have hrun := Action.outcome_perform_eq_ok (Action.outcome_during_eq_ok h)
  cases hcontent : handle.content with
  | none => simp [hcontent] at hrun
  | some collection =>
    simp only [Handle.logged_content, hcontent] at hrun
    split at hrun
    · simp at hrun
    · rename_i remaining hdropped
      obtain ⟨-, rfl⟩ := Prod.mk.inj hrun
      refine ⟨rfl, fun stored => ?_⟩
      obtain ⟨-, rfl⟩ := Collection.dropIndex_eq_ok_iff.1 hdropped
      simp only [Handle.indexes, hcontent, Option.map_some, Option.getD_some]
      exact NameMap.mem_names_erase _ _ _

/-- Bringing one declaration up to date from a listing in which bare names are right. -/
theorem apply_updates {existing : NameMap ExistingIndex}
    (hspells : ∀ bare index, existing.get? bare = some index →
      bareName? index.storedName = some bare) {declaration : IndexDeclaration}
    {handle after : Handle}
    (h : (declaration.apply existing).outcome handle = (.ok (), after)) :
    Updates existing [declaration] handle after := by
  unfold apply at h
  cases hexisting : existing.get? declaration.name with
  | none =>
    have hlisted : declaration.isListed existing = false := by
      unfold isListed
      rw [hexisting]
    simp only [hexisting] at h
    obtain ⟨hcalls, hnames, hpresent⟩ := create_eq_ok h
    refine ⟨⟨_, hcalls, by simp [Operation.index?, hlisted]⟩, fun _ => ?_, ?_, fun _ => hpresent⟩
    · rw [List.forall_mem_singleton]
      intro stored _
      rw [hnames, hlisted, if_neg Bool.false_ne_true, hexisting]
      simp
    · intro stored hstored
      rw [hnames, or_iff_right]
      rintro rfl
      exact hstored declaration List.mem_cons_self declaration.bareName?_storedName
  | some index =>
    simp only [hexisting] at h
    by_cases hversion : index.version = declaration.version
    · rw [if_pos hversion] at h
      obtain ⟨-, rfl⟩ := Prod.mk.inj h
      have hlisted : declaration.isListed existing = true :=
        isListed_iff.2 ⟨index, hexisting, hversion⟩
      refine ⟨⟨[], by simp, by simp [hlisted]⟩, fun _ => ?_, fun _ _ => Iff.rfl, id⟩
      rw [List.forall_mem_singleton]
      intro stored _
      rw [if_pos hlisted]
    · rw [if_neg hversion] at h
      have hlisted : declaration.isListed existing = false := by
        unfold isListed
        rw [hexisting]
        exact beq_false_of_ne hversion
      obtain ⟨_, middle, hdrop, hcreate⟩ := Action.outcome_bind_eq_ok h
      obtain ⟨hdropCalls, hdropNames⟩ := dropOld_eq_ok hdrop
      obtain ⟨hcalls, hnames, hpresent⟩ := create_eq_ok hcreate
      rw [hdropCalls, List.append_assoc] at hcalls
      refine ⟨⟨_, hcalls, by simp [Operation.index?, hlisted]⟩, fun _ => ?_, ?_,
        fun _ => hpresent⟩
      · rw [List.forall_mem_singleton]
        intro stored _
        rw [hnames, hdropNames, hlisted, if_neg Bool.false_ne_true, hexisting]
        simp [and_comm]
      · intro stored hstored
        have hbare := hstored declaration List.mem_cons_self
        have hown : stored ≠ declaration.storedName := by
          rintro rfl
          exact hbare declaration.bareName?_storedName
        have hold : stored ≠ index.storedName := by
          rintro rfl
          exact hbare (hspells _ _ hexisting)
        rw [hnames, hdropNames]
        simp [hown, hold]

/-- Bringing declarations up to date one after the other, if it succeeds. -/
theorem applyEach_updates {existing : NameMap ExistingIndex}
    (hspells : ∀ bare index, existing.get? bare = some index →
      bareName? index.storedName = some bare) {declarations : List IndexDeclaration}
    {handle after : Handle}
    (h : (applyEach existing declarations).outcome handle = (.ok (), after)) :
    Updates existing declarations handle after := by
  induction declarations generalizing handle with
  | nil =>
    obtain ⟨-, rfl⟩ := Prod.mk.inj h
    exact .nil existing handle
  | cons declaration rest ih =>
    unfold applyEach at h
    obtain ⟨_, middle, hfirst, hrest⟩ := Action.outcome_bind_eq_ok h
    exact (apply_updates hspells hfirst).cons (ih hrest)

/-- Declared indexes that are listed are left alone. -/
theorem applyEach_of_listed {existing : NameMap ExistingIndex}
    {declarations : List IndexDeclaration}
    (h : ∀ declaration ∈ declarations, declaration.isListed existing = true) (handle : Handle) :
    (applyEach existing declarations).outcome handle = (.ok (), handle) := by
  induction declarations with
  | nil => rfl
  | cons declaration rest ih =>
    rw [List.forall_mem_cons] at h
    obtain ⟨index, hindex, hversion⟩ := isListed_iff.1 h.1
    have hfirst : (declaration.apply existing).outcome handle = (.ok (), handle) := by
      unfold apply
      simp only [hindex, if_pos hversion]
      rfl
    unfold applyEach
    rw [Action.outcome_bind_ok hfirst]
    exact ih h.2

/-- After a run that follows a listing, another listing shows the declared index if the first did,
or if no other stored name of its bare name comes behind it. -/
theorem isListed_after_iff {declaration : IndexDeclaration} {space space' : String}
    {before after : NameMap IndexDefinition}
    (h : declaration.Follows (listing space before) before after) :
    declaration.isListed (listing space' after) = true ↔
      ∀ stored, Shown before declaration.name stored →
        indexParts? stored = some (declaration.name, declaration.version) ∨
          ∀ other ∈ before.names, bareName? other = some declaration.name → other ≠ stored →
            other ≤ declaration.storedName := by
  by_cases hlisted : declaration.isListed (listing space before) = true
  · -- The stored names of the bare name are as they were.
    obtain ⟨stored, hshown, hparts⟩ := isListed_listing_iff.1 hlisted
    have hsame : ∀ other, bareName? other = some declaration.name →
        (other ∈ after.names ↔ other ∈ before.names) := by
      intro other hother
      rw [h other hother, if_pos hlisted]
    refine iff_of_true (isListed_listing_iff.2 ⟨stored, ⟨?_, hshown.spells, ?_⟩, hparts⟩) ?_
    · exact (hsame stored hshown.spells).2 hshown.live
    · exact fun other hother hbare => hshown.last other ((hsame other hbare).1 hother) hbare
    · exact fun other hother => .inl (hother.unique hshown ▸ hparts)
  · have hnames : ∀ other, bareName? other = some declaration.name →
        (other ∈ after.names ↔ other = declaration.storedName ∨ other ∈ before.names ∧
          ∀ index, (listing space before).get? declaration.name = some index →
            other ≠ index.storedName) := by
      intro other hother
      rw [h other hother, if_neg hlisted]
    have hown : declaration.storedName ∈ after.names :=
      (hnames _ declaration.bareName?_storedName).2 (.inl rfl)
    rw [isListed_listing_iff]
    constructor
    · rintro ⟨last, hlast, hparts⟩ stored hshown
      -- The declared index is there, so that it is the one that is shown.
      have heq : last = declaration.storedName := String.le_antisymm
        (le_storedName hparts) (hlast.last _ hown declaration.bareName?_storedName)
      refine .inr fun other hother hbare hne => ?_
      rw [← heq]
      refine hlast.last other ((hnames other hbare).2 (.inr ⟨hother, ?_⟩)) hbare
      intro index hindex hsame
      exact hne (hsame.trans ((shown_of_listing hindex).1.unique hshown))
    · intro hbehind
      refine ⟨declaration.storedName, ⟨hown, declaration.bareName?_storedName, ?_⟩,
        declaration.indexParts?_storedName⟩
      intro other hother hbare
      rcases (hnames other hbare).1 hother with rfl | ⟨hthere, hne⟩
      · exact String.le_refl _
      · cases hindex : (listing space before).get? declaration.name with
        | none => exact absurd hbare (not_spelled_of_listing hindex other hthere)
        | some index =>
          obtain ⟨hshown, hindexParts⟩ := shown_of_listing hindex
          rcases hbehind index.storedName hshown with hparts | hothers
          · exact absurd (isListed_listing_iff.2 ⟨_, hshown, hparts⟩) hlisted
          · exact hothers other hthere hbare (hne index hindex)

end IndexDeclaration

/-- A run that succeeds has read the indexes and followed their listing. -/
theorem reconcile_eq_ok {declarations : List IndexDeclaration} {handle after : Handle}
    (h : (reconcile declarations).outcome handle = (.ok (), after)) :
    SpellNames handle.indexes ∧
      Updates (listing handle.space handle.indexes) declarations (handle.logged .listIndexes)
        after := by
  unfold reconcile at h
  obtain ⟨existing, middle, hlisted, hrun⟩ := Action.outcome_bind_eq_ok h
  obtain ⟨hnames, rfl, rfl⟩ := outcome_existingIndexes_ok hlisted
  exact ⟨hnames, IndexDeclaration.applyEach_updates
    (fun bare index hindex => (shown_of_listing hindex).1.spells) hrun⟩

/-- Where all declared indexes are listed, a run lists the indexes and does nothing else. -/
theorem outcome_reconcile_of_listed {declarations : List IndexDeclaration} {handle : Handle}
    (hfaults : handle.faults = .none) (hnames : SpellNames handle.indexes)
    (hlisted : ∀ declaration ∈ declarations,
      declaration.isListed (listing handle.space handle.indexes) = true) :
    (reconcile declarations).outcome handle = (.ok (), handle.logged .listIndexes) := by
  unfold reconcile
  rw [Action.outcome_bind_ok (outcome_existingIndexes_none hfaults hnames)]
  exact IndexDeclaration.applyEach_of_listed hlisted _

/-- Where indexes can be read, a run succeeds without a call about an index if all declared indexes
are listed. -/
theorem reconcile_quiet_iff {declarations : List IndexDeclaration} {handle : Handle}
    (hfaults : handle.faults = .none) (hnames : SpellNames handle.indexes) :
    (((reconcile declarations).outcome handle).1 = .ok () ∧
        QuietCalls handle.calls ((reconcile declarations).outcome handle).2.calls) ↔
      ∀ declaration ∈ declarations,
        declaration.isListed (listing handle.space handle.indexes) = true := by
  constructor
  · rintro ⟨hresult, made, hmade, hquiet⟩
    rcases houtcome : (reconcile declarations).outcome handle with ⟨result, after⟩
    rw [houtcome] at hresult hmade
    obtain rfl : result = .ok () := hresult
    obtain ⟨-, hupdates⟩ := reconcile_eq_ok houtcome
    obtain ⟨made', hmade', hquiet'⟩ := hupdates.calls
    have hsame : handle.calls ++ made =
        handle.calls ++ ⟨handle.name, .listIndexes⟩ :: made' := by
      rw [← show after.calls = handle.calls ++ made from hmade, hmade']
      simp [Handle.logged]
    rw [List.append_cancel_left hsame, List.forall_mem_cons] at hquiet
    exact hquiet'.1 hquiet.2
  · intro hlisted
    rw [outcome_reconcile_of_listed hfaults hnames hlisted]
    exact ⟨rfl, [⟨handle.name, .listIndexes⟩], rfl, by simp [Operation.index?]⟩

namespace Session

/-- Whether a run succeeds and makes no call about an index. -/
def Quiet (before : Session) (run : Result Unit × Session) : Prop :=
  run.1 = .ok () ∧ QuietCalls before.calls run.2.calls

variable {session : Session} {name : String} {declarations : List IndexDeclaration}

/-- A run that succeeds leaves in the session what it has followed a listing to. -/
theorem reconcile_updates {faults : Faults}
    (h : (session.reconcile name declarations faults).1 = .ok ()) :
    SpellNames (session.store.indexes name) ∧
      SpellNames ((session.reconcile name declarations faults).2.store.indexes name) ∧
      ((∀ declaration ∈ declarations, ∀ other ∈ declarations,
          declaration.name = other.name → declaration.version = other.version) →
        ∀ declaration ∈ declarations, declaration.Follows
          (listing (session.handle name).space (session.store.indexes name))
          (session.store.indexes name)
          ((session.reconcile name declarations faults).2.store.indexes name)) := by
  rcases houtcome : (VersionedStore.reconcile declarations).outcome
    (handle { session with faults := faults } name) with ⟨result, after⟩
  have hrun : session.reconcile name declarations faults =
      (result, adopt { session with faults := faults } name after) := by
    show Session.on _ _ _ = _
    rw [on_eq, houtcome]
  rw [hrun] at h ⊢
  obtain rfl : result = .ok () := h
  obtain ⟨hnames, hupdates⟩ := reconcile_eq_ok houtcome
  rw [indexes_adopt hupdates.present]
  exact ⟨hnames, hupdates.spellNames hnames, hupdates.declared⟩

/-- Let a run succeed, whichever faults there were.  Running again at once succeeds without creating
or dropping an index if declarations of one name have one version, and if, for each declaration, the
last stored name of its bare name spelled it already, or no other one comes behind its own.  So it
does where indexes are told apart by their bare names and declarations by their names. -/
theorem reconcile_again_iff {faults : Faults}
    (h : (session.reconcile name declarations faults).1 = .ok ()) :
    let first := (session.reconcile name declarations faults).2
    (first.Quiet (first.reconcile name declarations .none) ↔
      (∀ declaration ∈ declarations, ∀ other ∈ declarations,
        declaration.name = other.name → declaration.version = other.version) ∧
      ∀ declaration ∈ declarations, ∀ stored,
        Shown (session.store.indexes name) declaration.name stored →
          indexParts? stored = some (declaration.name, declaration.version) ∨
            ∀ other ∈ (session.store.indexes name).names,
              bareName? other = some declaration.name → other ≠ stored →
                other ≤ declaration.storedName) ∧
    (WellNamed (session.store.indexes name) → (declarations.map IndexDeclaration.name).Nodup →
      first.Quiet (first.reconcile name declarations .none)) := by
  intro first
  obtain ⟨-, hnames, hfollows⟩ := reconcile_updates h
  have hquiet : first.Quiet (first.reconcile name declarations .none) ↔
      ∀ declaration ∈ declarations, declaration.isListed
        (listing (first.handle name).space (first.store.indexes name)) = true := by
    have hfaults : (handle { first with faults := .none } name).faults = .none := rfl
    exact reconcile_quiet_iff hfaults hnames
  have hiff : first.Quiet (first.reconcile name declarations .none) ↔
      (∀ declaration ∈ declarations, ∀ other ∈ declarations,
        declaration.name = other.name → declaration.version = other.version) ∧
      ∀ declaration ∈ declarations, ∀ stored,
        Shown (session.store.indexes name) declaration.name stored →
          indexParts? stored = some (declaration.name, declaration.version) ∨
            ∀ other ∈ (session.store.indexes name).names,
              bareName? other = some declaration.name → other ≠ stored →
                other ≤ declaration.storedName := by
    rw [hquiet]
    constructor
    · intro hlisted
      have hversions : ∀ declaration ∈ declarations, ∀ other ∈ declarations,
          declaration.name = other.name → declaration.version = other.version := by
        intro declaration hdeclaration other hother hname
        obtain ⟨index, hindex, hversion⟩ :=
          IndexDeclaration.isListed_iff.1 (hlisted declaration hdeclaration)
        obtain ⟨index', hindex', hversion'⟩ :=
          IndexDeclaration.isListed_iff.1 (hlisted other hother)
        rw [hname, hindex'] at hindex
        rw [← hversion, ← hversion', Option.some.inj hindex]
      exact ⟨hversions, fun declaration hdeclaration => (IndexDeclaration.isListed_after_iff
        (hfollows hversions declaration hdeclaration)).1 (hlisted declaration hdeclaration)⟩
    · rintro ⟨hversions, hbehind⟩ declaration hdeclaration
      exact (IndexDeclaration.isListed_after_iff
        (hfollows hversions declaration hdeclaration)).2 (hbehind declaration hdeclaration)
  refine ⟨hiff, fun hwell hdistinct => hiff.2 ⟨?_, ?_⟩⟩
  · intro declaration hdeclaration other hother hname
    rw [List.inj_on_of_nodup_map hdistinct hdeclaration hother hname]
  · intro declaration hdeclaration stored hshown
    refine .inr fun other hother hbare hne => absurd ?_ hne
    exact hwell.distinct other hother stored hshown.live _ hbare hshown.spells

/-- A session on a collection with an index on one field under each of some names. -/
def namedSession (names : List String) : Session :=
  (names.map (Change.createIndex "articles" (ascending "x"))).foldl Change.run
    { store := { database := "db", ids := ⟨⟨0⟩, 0⟩ } }

/-- A declaration of that index. -/
def fieldIndex (version : Int64) (h : 1 ≤ version) : IndexDeclaration :=
  ⟨"x", version, ascending "x", by decide, by decide, h⟩

/-- The statement for two stored names of one bare name, both before the declared one. -/
theorem reconcile_again_named :
    ((namedSession ["x-1", "x-5"]).reconcile "articles" [fieldIndex 7 (by decide)] .none).1 =
        .ok () ∧
      ((namedSession ["x-1", "x-5"]).reconcile "articles" [fieldIndex 7 (by decide)] .none).2.Quiet
        (((namedSession ["x-1", "x-5"]).reconcile "articles" [fieldIndex 7 (by decide)]
          .none).2.reconcile "articles" [fieldIndex 7 (by decide)] .none) := by
  have hfirst : ((namedSession ["x-1", "x-5"]).reconcile "articles" [fieldIndex 7 (by decide)]
      .none).1 = .ok () := Result.eq_ok_of_isOk (by decide +kernel)
  have hnames : ((namedSession ["x-1", "x-5"]).store.indexes "articles").names =
      ["x-1", "x-5"] := by rfl
  have hstored : (fieldIndex 7 (by decide)).storedName = "x-7" := by decide
  refine ⟨hfirst, (reconcile_again_iff hfirst).1.2 ⟨by simp, ?_⟩⟩
  rw [List.forall_mem_singleton, hnames, hstored]
  refine fun stored _ => .inr fun other hother _ _ => ?_
  simp only [List.mem_cons, List.not_mem_nil, or_false] at hother
  rcases hother with rfl | rfl <;> decide

/-- Where the first run drops one of two stored names that come behind the declared one, the second
run drops the other. -/
theorem reconcile_again_drops :
    IndexDeclaration.declare "x" 1 (ascending "x") = .ok (fieldIndex 1 (by decide)) ∧
      ((namedSession ["x-10", "x-5"]).reconcile "articles" [fieldIndex 1 (by decide)] .none).1 =
        .ok () ∧
      ¬ ((namedSession ["x-10", "x-5"]).reconcile "articles" [fieldIndex 1 (by decide)]
        .none).2.Quiet
          (((namedSession ["x-10", "x-5"]).reconcile "articles" [fieldIndex 1 (by decide)]
            .none).2.reconcile "articles" [fieldIndex 1 (by decide)] .none) := by
  have hcalls : (((namedSession ["x-10", "x-5"]).reconcile "articles" [fieldIndex 1 (by decide)]
      .none).2.reconcile "articles" [fieldIndex 1 (by decide)] .none).2.calls =
        ((namedSession ["x-10", "x-5"]).reconcile "articles" [fieldIndex 1 (by decide)]
          .none).2.calls ++ [⟨"articles", .listIndexes⟩, ⟨"articles", .dropIndex "x-10"⟩,
            ⟨"articles", .createIndex "x-1"⟩] := by decide +kernel
  refine ⟨by rfl, Result.eq_ok_of_isOk (by decide +kernel), ?_⟩
  rintro ⟨-, made, hmade, hquiet⟩
  rw [hcalls] at hmade
  obtain rfl := List.append_cancel_left hmade
  exact absurd (hquiet ⟨"articles", .dropIndex "x-10"⟩ (by simp)) (by simp [Operation.index?])

end Session

end VersionedStore
