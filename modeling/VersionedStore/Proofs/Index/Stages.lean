import VersionedStore.Proofs.Index.StoredName

/-!
# How far indexes have been brought up to date

Bringing indexes up to date may stop anywhere.  For each declaration it has then left alone the
indexes of the declared bare name, or has dropped them, or has created the declared one; and
whichever it is, what another run makes of the indexes is the same.

* `IndexDeclaration.isCurrent`: an index of the declared name and version is there.
* `IndexDeclaration.Stage`: how far a run has come with one declaration.
* `PartlyReconciled`: how far it has come with all of them, and that it touched nothing else.
* `reconciled?`: the index that stands under a stored name in the end.
* `PartlyReconciled.reconciled?_eq`: the end does not depend on where a run stopped.
-/

set_option autoImplicit false

namespace VersionedStore

namespace AgreeOn

variable {bare : String} {a b c : NameMap IndexDefinition}

/-- Indexes agree with themselves on every bare name. -/
theorem refl (bare : String) (indexes : NameMap IndexDefinition) : AgreeOn bare indexes indexes :=
  fun _ _ => rfl

/-- Agreement on a bare name goes both ways. -/
theorem symm (h : AgreeOn bare a b) : AgreeOn bare b a :=
  fun stored hstored => (h stored hstored).symm

/-- Agreement on a bare name is passed on. -/
theorem trans (h : AgreeOn bare a b) (h' : AgreeOn bare b c) : AgreeOn bare a c :=
  fun stored hstored => (h stored hstored).trans (h' stored hstored)

end AgreeOn

/-- What a listing shows of a bare name is right about all indexes that agree on it. -/
theorem Shows.congr {existing : NameMap ExistingIndex} {bare : String}
    {a b : NameMap IndexDefinition} (h : Shows existing a bare) (hagree : AgreeOn bare b a) :
    Shows existing b bare := by
  unfold Shows at *
  cases hexisting : existing.get? bare with
  | none =>
    simp only [hexisting] at h ⊢
    exact fun stored hstored => (hagree stored hstored).trans (h stored hstored)
  | some index =>
    simp only [hexisting] at h ⊢
    obtain ⟨hparts, ⟨definition, hdefinition⟩, hothers⟩ := h
    have hbare : bareName? index.storedName = some bare := bareName?_of_indexParts? hparts
    exact ⟨hparts, ⟨definition, (hagree _ hbare).trans hdefinition⟩,
      fun stored hstored hne => (hagree stored hstored).trans (hothers stored hstored hne)⟩

namespace IndexDeclaration

/-- Whether an index of the declared name and version is there. -/
def isCurrent (declaration : IndexDeclaration) (indexes : NameMap IndexDefinition) : Bool :=
  indexes.names.any fun stored =>
    indexParts? stored == some (declaration.name, declaration.version)

/-- The declared index is there if some stored name spells the declared name and version. -/
theorem isCurrent_iff (declaration : IndexDeclaration) (indexes : NameMap IndexDefinition) :
    declaration.isCurrent indexes = true ↔ ∃ stored definition,
      indexes.get? stored = some definition ∧
        indexParts? stored = some (declaration.name, declaration.version) := by
  unfold isCurrent
  simp only [List.any_eq_true, NameMap.mem_names_iff, beq_iff_eq]
  constructor
  · rintro ⟨stored, ⟨definition, hdefinition⟩, hparts⟩
    exact ⟨stored, definition, hdefinition, hparts⟩
  · rintro ⟨stored, definition, hdefinition, hparts⟩
    exact ⟨stored, ⟨definition, hdefinition⟩, hparts⟩

/-- Only the indexes of the declared bare name decide whether the declared one is there. -/
theorem isCurrent_congr {declaration : IndexDeclaration} {a b : NameMap IndexDefinition}
    (h : AgreeOn declaration.name a b) : declaration.isCurrent a = declaration.isCurrent b := by
  rw [Bool.eq_iff_iff, isCurrent_iff, isCurrent_iff]
  constructor
  · rintro ⟨stored, definition, hdefinition, hparts⟩
    have hsame := h stored (bareName?_of_indexParts? hparts)
    exact ⟨stored, definition, hsame.symm.trans hdefinition, hparts⟩
  · rintro ⟨stored, definition, hdefinition, hparts⟩
    have hsame := h stored (bareName?_of_indexParts? hparts)
    exact ⟨stored, definition, hsame.trans hdefinition, hparts⟩

/-- Where nothing has the declared bare name, the declared index is not there. -/
theorem isCurrent_of_absent {declaration : IndexDeclaration}
    {indexes : NameMap IndexDefinition} (h : Absent declaration.name indexes) :
    declaration.isCurrent indexes = false := by
  rw [Bool.eq_false_iff, ne_eq, isCurrent_iff]
  rintro ⟨stored, definition, hdefinition, hparts⟩
  have hnone := h stored (bareName?_of_indexParts? hparts)
  rw [hdefinition] at hnone
  exact absurd hnone (by simp)

/-- Whether the declared index may be created over some documents. -/
def Fits (declaration : IndexDeclaration) (documents : List Document) : Prop :=
  declaration.definition.unique = true →
    Collection.collidesWithin declaration.definition documents = false

/-- The declared index under its stored name, and no other of its bare name. -/
def created? (declaration : IndexDeclaration) (stored : String) : Option IndexDefinition :=
  if stored = declaration.storedName then some declaration.definition else none

/-- The declared index stands under the stored name of its declaration only. -/
theorem eq_storedName_of_created? {declaration : IndexDeclaration} {stored : String}
    {definition : IndexDefinition} (h : declaration.created? stored = some definition) :
    stored = declaration.storedName := by
  unfold created? at h
  split at h
  · assumption
  · exact absurd h (by simp)

/-- The declared index is the only one of its bare name. -/
def Stands (declaration : IndexDeclaration) (indexes : NameMap IndexDefinition) : Prop :=
  ∀ stored, bareName? stored = some declaration.name →
    indexes.get? stored = declaration.created? stored

/-- A declared index that stands is there. -/
theorem Stands.isCurrent {declaration : IndexDeclaration} {indexes : NameMap IndexDefinition}
    (h : declaration.Stands indexes) : declaration.isCurrent indexes = true := by
  rw [isCurrent_iff]
  refine ⟨declaration.storedName, declaration.definition, ?_, declaration.indexParts?_storedName⟩
  rw [h _ declaration.bareName?_storedName, created?, if_pos rfl]

/-- How far a run has come with one declaration: it has left the indexes of the declared bare name
alone, or the declared index was not there and the others have been dropped, or it was not there
and has been created. -/
inductive Stage (declaration : IndexDeclaration) (documents : List Document)
    (before after : NameMap IndexDefinition) : Prop
  | kept (agree : AgreeOn declaration.name after before)
  | dropped (outdated : declaration.isCurrent before = false)
    (absent : Absent declaration.name after)
  | created (outdated : declaration.isCurrent before = false)
    (fits : declaration.Fits documents) (stands : declaration.Stands after)

/-- A declaration is settled when the indexes of its bare name have been left alone, if the declared
one was there, and when it has been created otherwise. -/
def Settled (declaration : IndexDeclaration) (documents : List Document)
    (before after : NameMap IndexDefinition) : Prop :=
  if declaration.isCurrent before then AgreeOn declaration.name after before
  else declaration.Fits documents ∧ declaration.Stands after

variable {declaration : IndexDeclaration} {documents : List Document}
  {before middle after : NameMap IndexDefinition}

/-- To be settled is a stage of a run. -/
theorem Settled.stage (h : declaration.Settled documents before after) :
    declaration.Stage documents before after := by
  unfold Settled at h
  split at h
  · exact .kept h
  · rename_i houtdated
    exact .created (by simpa using houtdated) h.1 h.2

/-- The index of a declaration that is settled is there. -/
theorem Settled.isCurrent (h : declaration.Settled documents before after) :
    declaration.isCurrent after = true := by
  unfold Settled at h
  split at h
  · rename_i hcurrent
    rw [isCurrent_congr h, hcurrent]
  · exact h.2.isCurrent

/-- What precedes a stage without touching the declared bare name adds nothing to it. -/
theorem Stage.of_agreeOn (hagree : AgreeOn declaration.name middle before)
    (h : declaration.Stage documents middle after) :
    declaration.Stage documents before after := by
  cases h with
  | kept agree => exact .kept (agree.trans hagree)
  | dropped outdated absent => exact .dropped ((isCurrent_congr hagree.symm).trans outdated) absent
  | created outdated fits stands =>
    exact .created ((isCurrent_congr hagree.symm).trans outdated) fits stands

/-- What follows a stage without touching the declared bare name adds nothing to it. -/
theorem Stage.trans_agreeOn (h : declaration.Stage documents before middle)
    (hagree : AgreeOn declaration.name after middle) :
    declaration.Stage documents before after := by
  cases h with
  | kept agree => exact .kept (hagree.trans agree)
  | dropped outdated absent =>
    exact .dropped outdated fun stored hstored =>
      (hagree stored hstored).trans (absent stored hstored)
  | created outdated fits stands =>
    exact .created outdated fits fun stored hstored =>
      (hagree stored hstored).trans (stands stored hstored)

/-- A declaration stays settled when the indexes before agree on its bare name. -/
theorem Settled.of_agreeOn (hagree : AgreeOn declaration.name middle before)
    (h : declaration.Settled documents middle after) :
    declaration.Settled documents before after := by
  unfold Settled at *
  rw [isCurrent_congr hagree.symm]
  split
  · rename_i hcurrent
    rw [if_pos hcurrent] at h
    exact h.trans hagree
  · rename_i houtdated
    rw [if_neg houtdated] at h
    exact h

/-- A declaration stays settled when the indexes after agree on its bare name. -/
theorem Settled.trans_agreeOn (h : declaration.Settled documents before middle)
    (hagree : AgreeOn declaration.name after middle) :
    declaration.Settled documents before after := by
  unfold Settled at *
  split
  · rename_i hcurrent
    rw [if_pos hcurrent] at h
    exact hagree.trans h
  · rename_i houtdated
    rw [if_neg houtdated] at h
    exact ⟨h.1, fun stored hstored => (hagree stored hstored).trans (h.2 stored hstored)⟩

end IndexDeclaration

/-- What a run has made of some indexes, wherever it stopped: each declaration is at some stage, and
no index of another bare name has been touched. -/
structure PartlyReconciled (declarations : List IndexDeclaration) (documents : List Document)
    (before after : NameMap IndexDefinition) : Prop where
  others : ∀ stored, (∀ declaration ∈ declarations, bareName? stored ≠ some declaration.name) →
    after.get? stored = before.get? stored
  declared : ∀ declaration ∈ declarations, declaration.Stage documents before after

/-- The index that stands under a stored name when declarations have been brought up to date. -/
def reconciled? (declarations : List IndexDeclaration) (indexes : NameMap IndexDefinition)
    (stored : String) : Option IndexDefinition :=
  match declarations.find? fun declaration => bareName? stored == some declaration.name with
  | none => indexes.get? stored
  | some declaration =>
    if declaration.isCurrent indexes then indexes.get? stored else declaration.created? stored

/-- A stored name has a bare name that no declaration has, or one declaration decides what stands
under it. -/
theorem reconciled?_cases (declarations : List IndexDeclaration) (stored : String) :
    ((∀ declaration ∈ declarations, bareName? stored ≠ some declaration.name) ∧
      ∀ indexes, reconciled? declarations indexes stored = indexes.get? stored) ∨
    ∃ declaration ∈ declarations, bareName? stored = some declaration.name ∧
      ∀ indexes, reconciled? declarations indexes stored =
        if declaration.isCurrent indexes then indexes.get? stored
        else declaration.created? stored := by
  unfold reconciled?
  cases hfound : declarations.find? fun declaration =>
      bareName? stored == some declaration.name with
  | none =>
    refine .inl ⟨fun declaration hdeclaration => ?_, fun _ => rfl⟩
    simpa using List.find?_eq_none.1 hfound declaration hdeclaration
  | some declaration =>
    have hbare : bareName? stored = some declaration.name := by
      simpa using List.find?_some hfound
    exact .inr ⟨declaration, List.mem_of_find?_eq_some hfound, hbare, fun _ => rfl⟩

namespace PartlyReconciled

variable {declarations : List IndexDeclaration} {documents : List Document}
  {before after : NameMap IndexDefinition}

/-- A run that has not begun has brought every declaration to a stage. -/
theorem refl (declarations : List IndexDeclaration) (documents : List Document)
    (indexes : NameMap IndexDefinition) :
    PartlyReconciled declarations documents indexes indexes :=
  ⟨fun _ _ => rfl, fun declaration _ => .kept (AgreeOn.refl declaration.name indexes)⟩

/-- The end does not depend on where a run stopped. -/
theorem reconciled?_eq (h : PartlyReconciled declarations documents before after)
    (stored : String) :
    reconciled? declarations after stored = reconciled? declarations before stored := by
  rcases reconciled?_cases declarations stored with
    ⟨hnone, hstored⟩ | ⟨declaration, hdeclaration, hbare, hstored⟩
  · rw [hstored, hstored]
    exact h.others stored hnone
  · rw [hstored, hstored]
    cases h.declared declaration hdeclaration with
    | kept agree => rw [IndexDeclaration.isCurrent_congr agree, agree stored hbare]
    | dropped outdated absent =>
      rw [outdated, IndexDeclaration.isCurrent_of_absent absent, if_neg Bool.false_ne_true,
        if_neg Bool.false_ne_true]
    | created outdated fits stands =>
      rw [outdated, stands.isCurrent, if_pos rfl, if_neg Bool.false_ne_true, stands stored hbare]

/-- When all declarations are settled, the end has been reached. -/
theorem get?_of_settled (h : PartlyReconciled declarations documents before after)
    (hsettled : ∀ declaration ∈ declarations, declaration.Settled documents before after)
    (stored : String) : after.get? stored = reconciled? declarations before stored := by
  rcases reconciled?_cases declarations stored with
    ⟨hnone, hstored⟩ | ⟨declaration, hdeclaration, hbare, hstored⟩
  · rw [hstored]
    exact h.others stored hnone
  · have hstate := hsettled declaration hdeclaration
    unfold IndexDeclaration.Settled at hstate
    rw [hstored]
    split at hstate
    · rename_i hcurrent
      rw [if_pos hcurrent, hstate stored hbare]
    · rename_i houtdated
      rw [if_neg houtdated, hstate.2 stored hbare]

/-- An index that is there after a run was there before it, or it has been declared and stands. -/
theorem mem_names (h : PartlyReconciled declarations documents before after) {stored : String}
    (hstored : stored ∈ after.names) :
    stored ∈ before.names ∨
      ∃ declaration ∈ declarations, stored = declaration.storedName ∧ declaration.Stands after := by
  obtain ⟨definition, hdefinition⟩ := (after.mem_names_iff stored).1 hstored
  by_cases hdeclared : ∃ declaration ∈ declarations, bareName? stored = some declaration.name
  · obtain ⟨declaration, hdeclaration, hbare⟩ := hdeclared
    cases h.declared declaration hdeclaration with
    | kept agree =>
      refine .inl ((before.mem_names_iff stored).2 ⟨definition, ?_⟩)
      rw [← agree stored hbare, hdefinition]
    | dropped outdated absent =>
      rw [absent stored hbare] at hdefinition
      exact absurd hdefinition (by simp)
    | created outdated fits stands =>
      rw [stands stored hbare] at hdefinition
      exact .inr ⟨declaration, hdeclaration,
        IndexDeclaration.eq_storedName_of_created? hdefinition, stands⟩
  · refine .inl ((before.mem_names_iff stored).2 ⟨definition, ?_⟩)
    rw [← h.others stored fun declaration hdeclaration hbare =>
      hdeclared ⟨declaration, hdeclaration, hbare⟩, hdefinition]

/-- Wherever a run stopped, the indexes are told apart by their bare names. -/
theorem wellNamed (h : PartlyReconciled declarations documents before after)
    (hbefore : WellNamed before) : WellNamed after := by
  refine ⟨?_, ?_⟩
  · intro stored hstored hne
    rcases h.mem_names hstored with hthere | ⟨declaration, -, rfl, -⟩
    · exact hbefore.named stored hthere hne
    · exact ⟨declaration.name, declaration.bareName?_storedName⟩
  · intro stored hstored other hother bare hbare hotherBare
    -- A declared index that stands is alone under its bare name.
    have halone : ∀ (declaration : IndexDeclaration) (a : String), declaration.Stands after →
        a ∈ after.names → bareName? a = bareName? declaration.storedName →
        a = declaration.storedName := by
      intro declaration a hstands ha hsame
      obtain ⟨definition, hdefinition⟩ := (after.mem_names_iff a).1 ha
      rw [declaration.bareName?_storedName] at hsame
      rw [hstands a hsame] at hdefinition
      exact IndexDeclaration.eq_storedName_of_created? hdefinition
    rcases h.mem_names hstored with hthere | ⟨declaration, -, rfl, hstands⟩
    · rcases h.mem_names hother with hotherThere | ⟨declaration, -, rfl, hstands⟩
      · exact hbefore.distinct stored hthere other hotherThere bare hbare hotherBare
      · exact halone declaration stored hstands hstored (hbare.trans hotherBare.symm)
    · exact (halone declaration other hstands hother (hotherBare.trans hbare.symm)).symm

end PartlyReconciled

end VersionedStore
