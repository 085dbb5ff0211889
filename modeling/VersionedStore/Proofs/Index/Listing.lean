import VersionedStore.Proofs.Index.StoredName

/-!
# What a listing shows of a bare name

Several stored names may spell one bare name.  A listing goes through the stored names in their
order, so that it shows the last of them.

* `SpellNames`: every stored name can be taken apart, so that a listing can be read.
* `Shown`: the stored name that a listing shows.
* `shown_of_listing`, `listing_of_shown`: a listing shows that and nothing else.
* `IndexDeclaration.le_storedName`: of the names that spell what a declaration does, its own is the
  last.
* `outcome_existingIndexes_ok`, `outcome_existingIndexes_none`: reading the indexes gives a listing.
-/

set_option autoImplicit false

namespace VersionedStore

/-- Every stored name but that of the index on the identifying field spells a bare name. -/
def SpellNames (indexes : NameMap IndexDefinition) : Prop :=
  ∀ stored ∈ indexes.names, stored ≠ primaryIndex → ∃ bare, bareName? stored = some bare

/-- The stored name that a listing shows for a bare name: the last of those that spell it. -/
structure Shown (indexes : NameMap IndexDefinition) (bare stored : String) : Prop where
  live : stored ∈ indexes.names
  spells : bareName? stored = some bare
  last : ∀ other ∈ indexes.names, bareName? other = some bare → other ≤ stored

/-- A listing shows one stored name for a bare name. -/
theorem Shown.unique {indexes : NameMap IndexDefinition} {bare stored stored' : String}
    (h : Shown indexes bare stored) (h' : Shown indexes bare stored') : stored = stored' :=
  String.le_antisymm (h'.last stored h.live h.spells) (h.last stored' h'.live h'.spells)

/-- The listing of the indexes of a collection. -/
def listing (space : String) (indexes : NameMap IndexDefinition) : NameMap ExistingIndex :=
  NameMap.ofList (indexes.names.filterMap (listed? space))

/-- The entries of a listing stand in the order of the stored names. -/
theorem pairwise_listing (space : String) (indexes : NameMap IndexDefinition) :
    (indexes.names.filterMap (listed? space)).Pairwise
      fun a b => a.2.storedName < b.2.storedName := by
  rw [List.pairwise_filterMap]
  refine (List.pairwise_map.2 indexes.sorted : indexes.names.Pairwise (· < ·)).imp ?_
  intro stored other hlt entry hentry entry' hentry'
  obtain ⟨parts, -, rfl⟩ := Option.map_eq_some_iff.1 hentry
  obtain ⟨parts', -, rfl⟩ := Option.map_eq_some_iff.1 hentry'
  exact hlt

variable {space bare : String} {indexes : NameMap IndexDefinition}

/-- A stored name that spells a bare name has an entry. -/
theorem exists_entry {stored : String} (hstored : stored ∈ indexes.names)
    (hbare : bareName? stored = some bare) (space : String) :
    ∃ version, (bare, ⟨space, stored, version⟩) ∈ indexes.names.filterMap (listed? space) := by
  obtain ⟨⟨bare, version⟩, hparts, rfl⟩ := Option.map_eq_some_iff.1 hbare
  exact ⟨version, mem_listing_iff.2 ⟨hstored, hparts, rfl⟩⟩

/-- What a listing shows is the last stored name, with the version that it spells. -/
theorem shown_of_listing {index : ExistingIndex}
    (h : (listing space indexes).get? bare = some index) :
    Shown indexes bare index.storedName ∧
      indexParts? index.storedName = some (bare, index.version) := by
  unfold listing at h
  rw [NameMap.get?_ofList_eq] at h
  -- Later entries win: no entry behind the one that is found has its bare name.
  obtain ⟨before, behind, hentries, hbefore⟩ := NameMap.exists_split_of_lookupEntry h
  have hsplit : indexes.names.filterMap (listed? space) =
      behind.reverse ++ (bare, index) :: before.reverse := by
    rw [← List.reverse_reverse (indexes.names.filterMap (listed? space)), hentries]
    simp
  have hmem : (bare, index) ∈ indexes.names.filterMap (listed? space) := by simp [hsplit]
  obtain ⟨hlive, hparts, -⟩ := mem_listing_iff.1 hmem
  refine ⟨⟨hlive, bareName?_of_indexParts? hparts, ?_⟩, hparts⟩
  intro other hother hbare
  obtain ⟨version, hentry⟩ := exists_entry hother hbare space
  have hordered := pairwise_listing space indexes
  rw [hsplit] at hentry hordered
  rcases List.mem_append.1 hentry with hearlier | hlater
  · exact le_of_lt ((List.pairwise_append.1 hordered).2.2 _ hearlier _ List.mem_cons_self)
  · rcases List.mem_cons.1 hlater with heq | hlater
    · cases heq
      exact String.le_refl other
    · exact absurd rfl (hbefore _ (List.mem_reverse.1 hlater))

/-- Where a listing shows nothing, nothing spells the bare name. -/
theorem not_spelled_of_listing (h : (listing space indexes).get? bare = none) :
    ∀ stored ∈ indexes.names, bareName? stored ≠ some bare := by
  unfold listing at h
  rw [NameMap.get?_ofList_eq, NameMap.lookupEntry_eq_none_iff] at h
  intro stored hstored hbare
  obtain ⟨version, hentry⟩ := exists_entry hstored hbare space
  exact h _ (List.mem_reverse.2 hentry) rfl

/-- The last stored name is what a listing shows. -/
theorem listing_of_shown {stored : String} {version : Int64} (h : Shown indexes bare stored)
    (hparts : indexParts? stored = some (bare, version)) (space : String) :
    ∃ index, (listing space indexes).get? bare = some index ∧ index.storedName = stored ∧
      index.version = version := by
  cases hindex : (listing space indexes).get? bare with
  | none => exact absurd h.spells (not_spelled_of_listing hindex stored h.live)
  | some index =>
    obtain ⟨hshown, hindexParts⟩ := shown_of_listing hindex
    have hname : index.storedName = stored := hshown.unique h
    rw [hname, hparts] at hindexParts
    exact ⟨index, rfl, hname, (Prod.mk.inj (Option.some.inj hindexParts)).2.symm⟩

/-! ### The names that spell a declaration -/

/-- A stored name that spells a bare name and a version is made of the bare name and a text that is
read as the version. -/
theorem exists_number_of_indexParts? {stored : String} {version : Int64}
    (h : indexParts? stored = some (bare, version)) :
    ∃ number, stored.toList = bare.toList ++ indexDelimiter :: number.toList ∧
      Integer.readInt64 number = .ok version := by
  have hparsed := ExistingIndex.parse_of_indexParts? h ""
  unfold ExistingIndex.parse at hparsed
  rcases hpieces : Text.pieces indexDelimiter stored with _ | ⟨first, _ | ⟨number, _ | _⟩⟩ <;>
    simp only [hpieces, reduceCtorEq] at hparsed
  cases hnumber : Integer.readInt64 number with
  | error fault => simp [hnumber] at hparsed
  | ok read =>
    simp only [hnumber, Except.ok.injEq, Prod.mk.injEq, ExistingIndex.mk.injEq, true_and] at hparsed
    obtain ⟨rfl, rfl⟩ := hparsed
    refine ⟨number, ?_, hnumber⟩
    have hchars : stored.toList.splitOn indexDelimiter = [first.toList, number.toList] := by
      have hmapped := congrArg (List.map String.toList) hpieces
      unfold Text.pieces at hmapped
      simpa [List.map_map, Function.comp_def] using hmapped
    have hjoined : List.intercalate [indexDelimiter] (stored.toList.splitOn indexDelimiter) =
        stored.toList := List.intercalate_splitOn indexDelimiter
    rw [hchars] at hjoined
    rw [← hjoined]
    simp [List.intercalate]

/-- Of the stored names that spell what a declaration does, its own is the last. -/
theorem IndexDeclaration.le_storedName {declaration : IndexDeclaration} {stored : String}
    (h : indexParts? stored = some (declaration.name, declaration.version)) :
    stored ≤ declaration.storedName := by
  obtain ⟨number, hstored, hnumber⟩ := exists_number_of_indexParts? h
  have hle := Integer.le_write_of_readInt64 hnumber declaration.one_le_version
  rw [String.le_iff_toList_le] at hle ⊢
  have hown : declaration.storedName.toList = declaration.name.toList ++
      indexDelimiter :: (Integer.write declaration.version.toInt).toList := by
    simp [storedName]
  rw [hstored, hown]
  induction declaration.name.toList with
  | nil => exact List.cons_le_cons _ hle
  | cons c rest ih => exact List.cons_le_cons _ ih

/-! ### Reading the indexes -/

/-- Indexes that have been read spell their names, and are known by their listing. -/
theorem outcome_existingIndexes_ok {handle after : Handle} {existing : NameMap ExistingIndex}
    (h : existingIndexes.outcome handle = (.ok existing, after)) :
    SpellNames handle.indexes ∧ existing = listing handle.space handle.indexes ∧
      after = handle.logged .listIndexes := by
  rcases outcome_existingIndexes_eq handle with ⟨-, error, hfailed⟩ | hread
  · rw [hfailed] at h
    simp at h
  · rw [hread] at h
    obtain ⟨hresult, rfl⟩ := Prod.mk.inj h
    obtain ⟨parsed, hparsed, rfl⟩ := Result.map_eq_ok hresult
    have hnames := bareName?_of_parseListed hparsed
    rw [parseListed_eq _ _ hnames] at hparsed
    refine ⟨fun stored hstored => hnames stored (List.mem_cons_of_mem _ hstored), ?_, rfl⟩
    rw [listing, ← listing_cons_primaryIndex, ← Except.ok.inj hparsed]

/-- Without faults, indexes that spell their names can be read. -/
theorem outcome_existingIndexes_none {handle : Handle} (hfaults : handle.faults = .none)
    (hnames : SpellNames handle.indexes) :
    existingIndexes.outcome handle =
      (.ok (listing handle.space handle.indexes), handle.logged .listIndexes) := by
  rcases outcome_existingIndexes_eq handle with ⟨hfaulty, -⟩ | hread
  · exact absurd hfaults hfaulty
  · rw [hread, parseListed_primaryIndex handle.space hnames]
    rfl

end VersionedStore
