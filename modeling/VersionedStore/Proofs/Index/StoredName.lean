import VersionedStore.Index.Reconcile
import VersionedStore.Proofs.NameMap.Lookup
import VersionedStore.Proofs.Number.Integer
import VersionedStore.Proofs.Session.Effects

/-!
# The stored names of indexes

A stored name spells a bare name and a version, and what a declaration spells is read back.

* `indexParts?`, `bareName?`: what a stored name spells.
* `IndexDeclaration.indexParts?_storedName`: a declared name and version are read back.
* `NameMap.WellNamed`: indexes that are told apart by their bare names.
* `Snapshot`: what a listing of such indexes knows of one bare name.
* `outcome_existingIndexes`: listing the indexes gives a snapshot of every bare name.
-/

set_option autoImplicit false

namespace VersionedStore

/-- The bare name and the version that the stored name of an index spells. -/
def indexParts? (stored : String) : Option (String × Int64) :=
  (ExistingIndex.parse "" stored).toOption.map fun parsed => (parsed.1, parsed.2.version)

/-- The bare name that the stored name of an index spells. -/
def bareName? (stored : String) : Option String := (indexParts? stored).map Prod.fst

/-- A stored name that spells a name and a version spells that name. -/
theorem bareName?_of_indexParts? {stored bare : String} {version : Int64}
    (h : indexParts? stored = some (bare, version)) : bareName? stored = some bare := by
  rw [bareName?, h]
  rfl

/-- What a stored name spells does not depend on where it is stored. -/
theorem ExistingIndex.parse_of_parse {space stored : String} {parsed : String × ExistingIndex}
    (h : ExistingIndex.parse space stored = .ok parsed) (space' : String) :
    ExistingIndex.parse space' stored = .ok (parsed.1, ⟨space', stored, parsed.2.version⟩) := by
  unfold ExistingIndex.parse at h ⊢
  rcases hpieces : Text.pieces indexDelimiter stored with _ | ⟨first, _ | ⟨number, _ | _⟩⟩ <;>
    simp only [hpieces, reduceCtorEq] at h ⊢
  cases hnumber : Integer.readInt64 number with
  | error fault => simp [hnumber] at h
  | ok read =>
    simp only [hnumber, Except.ok.injEq] at h ⊢
    rw [← h]

/-- A stored name is taken apart into what it spells. -/
theorem ExistingIndex.parse_of_indexParts? {stored bare : String} {version : Int64}
    (h : indexParts? stored = some (bare, version)) (space : String) :
    ExistingIndex.parse space stored = .ok (bare, ⟨space, stored, version⟩) := by
  unfold indexParts? at h
  cases hparsed : ExistingIndex.parse "" stored with
  | error error => simp [hparsed, Except.toOption] at h
  | ok parsed =>
    simp only [hparsed, Except.toOption, Option.map_some, Option.some.injEq, Prod.mk.injEq] at h
    rw [ExistingIndex.parse_of_parse hparsed, h.1, h.2]

/-- A stored name that is taken apart spells a bare name. -/
theorem bareName?_of_parse {space stored : String} {parsed : String × ExistingIndex}
    (h : ExistingIndex.parse space stored = .ok parsed) :
    bareName? stored = some parsed.1 := by
  unfold bareName? indexParts?
  rw [ExistingIndex.parse_of_parse h ""]
  rfl

/-- The name of the index on the identifying field spells no bare name. -/
theorem indexParts?_primaryIndex : indexParts? primaryIndex = none := by decide

namespace IndexDeclaration

/-- A declared name and version are read back from the stored name. -/
theorem indexParts?_storedName (declaration : IndexDeclaration) :
    indexParts? declaration.storedName = some (declaration.name, declaration.version) := by
  have hversion : indexDelimiter ∉ (Integer.write declaration.version.toInt).toList := by
    intro hmem
    have hdigit := Integer.isDigit_of_mem_write declaration.one_le_version hmem
    exact absurd hdigit (by decide)
  have hpieces : Text.pieces indexDelimiter declaration.storedName =
      [declaration.name, Integer.write declaration.version.toInt] := by
    have hchars : declaration.storedName.toList = declaration.name.toList ++
        indexDelimiter :: (Integer.write declaration.version.toInt).toList := by
      simp [storedName]
    unfold Text.pieces
    rw [hchars, List.splitOn_append_cons_self,
      List.splitOn_eq_singleton declaration.delimiter_not_mem_name,
      List.splitOn_eq_singleton hversion]
    simp
  unfold indexParts? ExistingIndex.parse
  simp only [hpieces, Integer.readInt64_write declaration.one_le_version]
  rfl

/-- The stored name of a declaration spells the declared name. -/
theorem bareName?_storedName (declaration : IndexDeclaration) :
    bareName? declaration.storedName = some declaration.name :=
  bareName?_of_indexParts? declaration.indexParts?_storedName

/-- No declaration has the name of the index on the identifying field. -/
theorem storedName_ne_primaryIndex (declaration : IndexDeclaration) :
    declaration.storedName ≠ primaryIndex := by
  intro h
  have hparts := declaration.indexParts?_storedName
  rw [h, indexParts?_primaryIndex] at hparts
  exact absurd hparts (by simp)

end IndexDeclaration

/-- Every stored name but that of the index on the identifying field spells a bare name and a
version, and no two spell the same bare name. -/
structure WellNamed (indexes : NameMap IndexDefinition) : Prop where
  named : ∀ stored ∈ indexes.names, stored ≠ primaryIndex → ∃ bare, bareName? stored = some bare
  distinct : ∀ stored ∈ indexes.names, ∀ other ∈ indexes.names, ∀ bare,
    bareName? stored = some bare → bareName? other = some bare → stored = other

/-- Two maps hold the same indexes under a bare name. -/
def AgreeOn (bare : String) (a b : NameMap IndexDefinition) : Prop :=
  ∀ stored, bareName? stored = some bare → a.get? stored = b.get? stored

/-- No index of a bare name is there. -/
def Absent (bare : String) (indexes : NameMap IndexDefinition) : Prop :=
  ∀ stored, bareName? stored = some bare → indexes.get? stored = none

/-- A listing is right about the indexes of a bare name: there is none if it shows none, and only
the one that it shows otherwise. -/
def Shows (existing : NameMap ExistingIndex) (indexes : NameMap IndexDefinition)
    (bare : String) : Prop :=
  match existing.get? bare with
  | none => Absent bare indexes
  | some index => indexParts? index.storedName = some (bare, index.version) ∧
    (∃ definition, indexes.get? index.storedName = some definition) ∧
    ∀ stored, bareName? stored = some bare → stored ≠ index.storedName →
      indexes.get? stored = none

/-- A stored name with what it spells, as an entry of a listing. -/
def listed? (space stored : String) : Option (String × ExistingIndex) :=
  (indexParts? stored).map fun parts => (parts.1, ⟨space, stored, parts.2⟩)

/-- Stored names that spell something are listed with what they spell. -/
theorem parseListed_eq (space : String) (names : List String)
    (h : ∀ stored ∈ names, stored ≠ primaryIndex → ∃ bare, bareName? stored = some bare) :
    parseListed (names.map fun stored => ⟨stored, space⟩) =
      .ok (names.filterMap (listed? space)) := by
  induction names with
  | nil => rfl
  | cons stored rest ih =>
    have hrest := ih fun other hother => h other (List.mem_cons_of_mem _ hother)
    simp only [List.map_cons, parseListed]
    by_cases hprimary : stored = primaryIndex
    · rw [if_pos hprimary, hrest, List.filterMap_cons_none]
      rw [hprimary, listed?, indexParts?_primaryIndex]
      rfl
    · rw [if_neg hprimary, hrest]
      obtain ⟨bare, hbare⟩ := h stored List.mem_cons_self hprimary
      obtain ⟨⟨bare, version⟩, hparts, rfl⟩ := Option.map_eq_some_iff.1 hbare
      rw [ExistingIndex.parse_of_indexParts? hparts space, List.filterMap_cons_some]
      · rfl
      · rw [listed?, hparts]
        rfl

/-- A listing that is read shows only stored names that spell something. -/
theorem bareName?_of_parseListed {space : String} {names : List String}
    {parsed : List (String × ExistingIndex)}
    (h : parseListed (names.map fun stored => ⟨stored, space⟩) = .ok parsed) :
    ∀ stored ∈ names, stored ≠ primaryIndex → ∃ bare, bareName? stored = some bare := by
  induction names generalizing parsed with
  | nil => simp
  | cons first rest ih =>
    simp only [List.map_cons, parseListed] at h
    rw [List.forall_mem_cons]
    by_cases hprimary : first = primaryIndex
    · rw [if_pos hprimary] at h
      exact ⟨fun hne => absurd hprimary hne, ih h⟩
    · rw [if_neg hprimary] at h
      cases hfirst : ExistingIndex.parse space first with
      | error error => simp [hfirst, bind, Except.bind] at h
      | ok entry =>
        cases hrest : parseListed (rest.map fun stored => ⟨stored, space⟩) with
        | error error => simp [hfirst, hrest, bind, Except.bind] at h
        | ok others => exact ⟨fun _ => ⟨entry.1, bareName?_of_parse hfirst⟩, ih hrest⟩

/-- The entries of a listing are the stored names, by the bare names that they spell. -/
theorem mem_listing_iff {space : String} {names : List String} {bare : String}
    {index : ExistingIndex} :
    (bare, index) ∈ names.filterMap (listed? space) ↔
      index.storedName ∈ names ∧ indexParts? index.storedName = some (bare, index.version) ∧
        index.space = space := by
  rw [List.mem_filterMap]
  constructor
  · rintro ⟨stored, hstored, hentry⟩
    obtain ⟨⟨first, version⟩, hparts, hindex⟩ := Option.map_eq_some_iff.1 hentry
    cases hindex
    exact ⟨hstored, hparts, rfl⟩
  · rintro ⟨hstored, hparts, rfl⟩
    exact ⟨index.storedName, hstored, by rw [listed?, hparts]; rfl⟩

/-- The index on the identifying field has no entry in a listing. -/
theorem listing_cons_primaryIndex (space : String) (names : List String) :
    (primaryIndex :: names).filterMap (listed? space) =
      names.filterMap (listed? space) := by
  rw [List.filterMap_cons_none]
  rw [listed?, indexParts?_primaryIndex]
  rfl

/-- A listing of names that all spell something has an entry for each. -/
theorem parseListed_primaryIndex (space : String) {names : List String}
    (h : ∀ stored ∈ names, stored ≠ primaryIndex → ∃ bare, bareName? stored = some bare) :
    parseListed ((primaryIndex :: names).map fun stored => ⟨stored, space⟩) =
      .ok (names.filterMap (listed? space)) := by
  have hnames : ∀ stored ∈ primaryIndex :: names, stored ≠ primaryIndex →
      ∃ bare, bareName? stored = some bare := by
    intro stored hstored hne
    exact h stored (List.mem_of_ne_of_mem hne hstored) hne
  rw [parseListed_eq space _ hnames, listing_cons_primaryIndex]

/-- The entries of well-named indexes have distinct bare names. -/
theorem WellNamed.nodup_listing {indexes : NameMap IndexDefinition} (h : WellNamed indexes)
    (space : String) :
    ((indexes.names.filterMap (listed? space)).map Prod.fst).Nodup := by
  rw [List.map_filterMap, List.Nodup, List.pairwise_filterMap]
  refine indexes.nodup_names.imp_of_mem ?_
  intro stored other hstored hother hne bare hbare bare' hbare' heq
  have hfirst : ∀ name, (listed? space name).map Prod.fst = bareName? name := fun name => by
    rw [listed?, Option.map_map]
    rfl
  rw [hfirst] at hbare hbare'
  exact hne (h.distinct stored hstored other hother bare hbare (heq ▸ hbare'))

/-- A listing of well-named indexes is right about every bare name. -/
theorem WellNamed.shows {indexes : NameMap IndexDefinition} (h : WellNamed indexes)
    (space bare : String) :
    Shows (NameMap.ofList (indexes.names.filterMap (listed? space))) indexes bare := by
  have hlisting := h.nodup_listing space
  unfold Shows
  rw [NameMap.get?_ofList _ _ hlisting]
  cases hfound : NameMap.lookupEntry bare (indexes.names.filterMap (listed? space)) with
  | none =>
    intro stored hbare
    cases hstored : indexes.get? stored with
    | none => rfl
    | some definition =>
      obtain ⟨⟨bare, version⟩, hparts, rfl⟩ := Option.map_eq_some_iff.1 hbare
      have hmem := (@mem_listing_iff space indexes.names bare ⟨space, stored, version⟩).2
        ⟨(indexes.mem_names_iff stored).2 ⟨definition, hstored⟩, hparts, rfl⟩
      rw [NameMap.lookupEntry_of_mem hlisting hmem] at hfound
      exact absurd hfound (by simp)
  | some index =>
    obtain ⟨hindex, hparts, -⟩ := mem_listing_iff.1 (NameMap.mem_of_lookupEntry hfound)
    refine ⟨hparts, (indexes.mem_names_iff _).1 hindex, ?_⟩
    intro stored hbare hne
    cases hstored : indexes.get? stored with
    | none => rfl
    | some definition =>
      have hindexBare : bareName? index.storedName = some bare := bareName?_of_indexParts? hparts
      exact absurd (h.distinct stored ((indexes.mem_names_iff stored).2 ⟨definition, hstored⟩)
        index.storedName hindex bare hbare hindexBare) hne

/-- Listing the indexes fails, if there are faults, or gives their names behind that of the index on
the identifying field. -/
theorem Action.outcome_listIndexes (handle : Handle) :
    (handle.faults ≠ .none ∧
      ∃ error, Action.listIndexes.outcome handle = (.error error, handle.logged .listIndexes)) ∨
    Action.listIndexes.outcome handle =
      (.ok ((primaryIndex :: handle.indexes.names).map fun stored => ⟨stored, handle.space⟩),
        handle.logged .listIndexes) := by
  unfold Action.listIndexes
  rw [outcome_perform]
  split
  · rename_i error hfault
    refine .inl ⟨?_, error, rfl⟩
    intro hnone
    simp [hnone, Faults.none] at hfault
  · refine .inr ?_
    unfold Handle.indexes
    simp only [Handle.logged_content, Handle.logged_space]
    cases handle.content <;> rfl

/-- Reading the indexes fails where listing them does. -/
theorem outcome_existingIndexes_error {handle after : Handle} {error : Error}
    (h : Action.listIndexes.outcome handle = (.error error, after)) :
    ∃ error', existingIndexes.outcome handle = (.error error', after) := by
  have hname : Action.collectionName.outcome handle = (.ok handle.name, handle) := rfl
  have hduring := Action.outcome_during s!"list indexes of {handle.name}" Action.listIndexes handle
  rw [h] at hduring
  unfold existingIndexes
  rw [Action.outcome_bind_ok hname]
  exact ⟨_, Action.outcome_bind_error hduring⟩

/-- Reading the indexes takes the listed names apart. -/
theorem outcome_existingIndexes_listed {handle after : Handle} {listed : List ListedIndex}
    (h : Action.listIndexes.outcome handle = (.ok listed, after)) :
    existingIndexes.outcome handle = ((parseListed listed).map NameMap.ofList, after) := by
  have hname : Action.collectionName.outcome handle = (.ok handle.name, handle) := rfl
  have hduring := Action.outcome_during s!"list indexes of {handle.name}" Action.listIndexes handle
  rw [h] at hduring
  unfold existingIndexes
  rw [Action.outcome_bind_ok hname, Action.outcome_bind_ok hduring]
  cases hparsed : parseListed listed <;> rfl

/-- Reading the indexes changes nothing but the log.  It fails, if there are faults, or gives what
their names spell. -/
theorem outcome_existingIndexes_eq (handle : Handle) :
    (handle.faults ≠ .none ∧
      ∃ error, existingIndexes.outcome handle = (.error error, handle.logged .listIndexes)) ∨
    existingIndexes.outcome handle =
      ((parseListed ((primaryIndex :: handle.indexes.names).map fun stored =>
        ⟨stored, handle.space⟩)).map NameMap.ofList, handle.logged .listIndexes) := by
  rcases Action.outcome_listIndexes handle with ⟨hfaults, error, hlisted⟩ | hlisted
  · exact .inl ⟨hfaults, outcome_existingIndexes_error hlisted⟩
  · exact .inr (outcome_existingIndexes_listed hlisted)

/-- Listing well-named indexes changes nothing but the log, and is right about every bare name. -/
theorem outcome_existingIndexes {handle : Handle} (h : WellNamed handle.indexes) :
    ∃ result, existingIndexes.outcome handle = (result, handle.logged .listIndexes) ∧
      (handle.faults = .none → ∃ existing, result = .ok existing) ∧
      ∀ existing, result = .ok existing → ∀ bare, Shows existing handle.indexes bare := by
  rcases outcome_existingIndexes_eq handle with ⟨hfaults, error, hfailed⟩ | hread
  · exact ⟨_, hfailed, fun hnone => absurd hnone hfaults, by simp⟩
  · rw [parseListed_primaryIndex handle.space h.named] at hread
    refine ⟨_, hread, fun _ => ⟨_, rfl⟩, ?_⟩
    intro existing hexisting bare
    obtain rfl := Except.ok.inj hexisting
    exact h.shows handle.space bare

end VersionedStore
