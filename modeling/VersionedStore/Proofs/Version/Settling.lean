import VersionedStore.Proofs.Version.Target

/-!
# A collection with nothing left to upgrade

An upgrade that replaces each document under its identity may write any image there, as long as
neither the search for older documents nor the guard against newer ones finds it.  What identity
the image has, if any, does not matter: the store keeps the one that the document had.

* `Upgrade.Replaces`: what is asked of an upgrade.
* `Action.outcome_replace_single`: a replacement that succeeds puts the image in place.
* `VersionedCollection.activateOn_settles`: an activation that succeeds leaves only documents that
  are settled.
* `VersionedCollection.activateOn_of_settled`: where all are, an activation only reads.
-/

set_option autoImplicit false

namespace VersionedStore

/-- A document that is neither below a version nor above it. -/
def IsSettled (target : Int64) (document : Document) : Prop :=
  isOlder target document = false ∧ isNewer target document = false

/-- A document is settled if neither the filter for lower versions nor that for higher ones accepts
it. -/
theorem isSettled_iff {target : Int64} {document : Document} :
    IsSettled target document ↔ Filter.accepts document (lowerVersions target) = .ok false ∧
      Filter.accepts document (higherVersions target) = .ok false := by
  unfold IsSettled
  rw [accepts_lowerVersions, accepts_higherVersions, Except.ok.injEq, Except.ok.injEq]

/-- Whether a document is settled shows at its marker. -/
theorem IsSettled.of_at? {target : Int64} {document other : Document}
    (h : IsSettled target document)
    (hmarker : Document.at? other versionPath = Document.at? document versionPath) :
    IsSettled target other := by
  unfold IsSettled at *
  rw [isOlder_eq] at *
  unfold isNewer at *
  rwa [hmarker]

/-- An identity is put in front of a document without changing its marker. -/
theorem at?_versionPath_withId (id : Value) (document : Document) :
    Document.at? (withId id document) versionPath = Document.at? document versionPath := by
  have hnames : pathNames versionPath = ["meta", "version"] := by decide
  have hother : idField ≠ "meta" := by decide
  unfold withId
  split
  · rfl
  · unfold Document.at? Document.withFirst
    rw [hnames]
    simp only [Value.descend, Document.get?_cons, if_neg hother]

/-! ### A replacement that succeeds -/

/-- What stands in the place of a document is the replacement, with an identity that is seen as the
same. -/
theorem Collection.keepId_eq_ok {space : String} {current replacement stored : Document}
    {id : Value} (hcurrent : Document.get? current idField = some id)
    (hplain : id.isPlainId = true) (h : keepId space current replacement = .ok stored) :
    stored = withId id replacement ∧
      ∃ kept, Document.get? stored idField = some kept ∧ id.looselyEquals kept = true := by
  unfold keepId at h
  simp only [hcurrent] at h
  unfold withId
  cases hrequested : Document.get? replacement idField with
  | none =>
    have hlacks : Document.contains replacement idField = false := by
      simp [Document.contains, hrequested]
    simp only [hrequested, withId, hlacks, Bool.false_eq_true, if_false, Except.ok.injEq] at h ⊢
    rw [← h]
    refine ⟨rfl, id, ?_, Value.looselyEquals_self hplain⟩
    simp [Document.withFirst, Document.get?_cons]
  | some requested =>
    have hcontains : Document.contains replacement idField = true := by
      simp [Document.contains, hrequested]
    simp only [hrequested] at h
    split at h
    · rename_i hsame
      obtain rfl := Except.ok.inj h
      rw [if_pos hcontains]
      exact ⟨rfl, requested, hrequested, hsame⟩
    · simp at h

/-- A replacement under a plain identity that succeeds has put the image in the place of the
document of that identity, and still no two documents have the same. -/
theorem Collection.replaceFirst_single {space : String} {collection collection' : Collection}
    {before behind : List Document} {current image : Document} {id : Value} {replaced : ℕ}
    (hids : SingleIds (before ++ current :: behind))
    (hdocuments : collection.documents = before ++ current :: behind)
    (hcurrent : Document.get? current idField = some id) (hplain : id.isPlainId = true)
    (h : replaceFirst space collection [(idField, id)] image = .ok (replaced, collection')) :
    collection' = collection.withDocuments (before ++ withId id image :: behind) ∧
      SingleIds (before ++ withId id image :: behind) := by
  unfold replaceFirst at h
  simp only [hdocuments, splitAtFirst_id hids hcurrent hplain, bind, Except.bind] at h
  cases hkept : keepId space current image with
  | error error => simp [hkept] at h
  | ok stored =>
    obtain ⟨rfl, kept, hkeptId, hsame⟩ := keepId_eq_ok hcurrent hplain hkept
    simp only [hkept] at h
    cases hunique : checkUnique space collection.indexes (before ++ behind) (withId id image) with
    | error error => simp [hunique] at h
    | ok _ =>
      simp only [hunique, pure, Except.pure, Except.ok.injEq, Prod.mk.injEq] at h
      refine ⟨h.2.symm, ?_, ?_⟩
      · intro document hdocument
        rcases List.mem_append.1 hdocument with hbefore | hbehind
        · exact hids.single document (List.mem_append_left _ hbefore)
        · rcases List.mem_cons.1 hbehind with rfl | hbehind
          · exact ⟨kept, hkeptId, Value.not_isArray_of_looselyEquals hplain hsame⟩
          · exact hids.single document (by simp [hbehind])
      · have hnew := ((checkUnique_eq_ok_iff _ _ _ _).1 hunique).1
        have hrest : (before ++ behind).Pairwise fun a b => sameId a b = false :=
          hids.differ.sublist
            (List.Sublist.append_left (List.sublist_cons_self current behind) before)
        rw [List.pairwise_middle fun {a b} hab => (sameId_comm b a).trans hab]
        exact List.pairwise_cons.2 ⟨hnew, hrest⟩

/-- A replacement by identity that succeeds puts the image in the place of the one document of that
identity. -/
theorem Action.outcome_replace_single {handle after : Handle} {before behind : List Document}
    {current image : Document} {id : Value} {replaced : ℕ}
    (hids : SingleIds handle.documents)
    (hdocuments : handle.documents = before ++ current :: behind)
    (hcurrent : Document.get? current idField = some id) (hplain : id.isPlainId = true)
    (h : (Action.replace [(idField, id)] image).outcome handle = (.ok replaced, after)) :
    after.content =
        handle.content.map (Collection.withDocuments (before ++ withId id image :: behind)) ∧
      SingleIds (before ++ withId id image :: behind) := by
  have hrun := Action.outcome_perform_eq_ok h
  cases hcontent : handle.content with
  | none => simp [Handle.documents, hcontent] at hdocuments
  | some collection =>
    have hcollection : collection.documents = before ++ current :: behind := by
      simpa only [Handle.documents, hcontent, Option.map_some, Option.getD_some] using hdocuments
    rw [hdocuments] at hids
    simp only [Handle.logged_content, Handle.logged_space, hcontent] at hrun
    cases hreplaced : collection.replaceFirst handle.space [(idField, id)] image with
    | error error => simp [hreplaced] at hrun
    | ok written =>
      obtain ⟨count, collection'⟩ := written
      obtain ⟨rfl, hsingle⟩ :=
        Collection.replaceFirst_single hids hcollection hcurrent hplain hreplaced
      simp only [hreplaced, Prod.mk.injEq] at hrun
      rw [← hrun.2]
      exact ⟨rfl, hsingle⟩

/-! ### Upgrades that replace documents -/

/-- An upgrade that replaces each document under its identity, by an image that is neither below a
version nor above it: where it succeeds, all it has done besides is to add to the log of calls. -/
def Upgrade.Replaces (upgrade : Upgrade) (target : Int64) : Prop :=
  ∀ document handle after, (upgrade document).outcome handle = (.ok (), after) →
    ∃ image replaced written, ∃ calls calls' : List Call,
      (Action.replace [(idField, (Document.get? document idField).getD .null)] image).outcome
        { handle with calls := calls } = (.ok replaced, written) ∧
      after = { written with calls := calls' } ∧
      Filter.accepts image (lowerVersions target) = .ok false ∧
      Filter.accepts image (higherVersions target) = .ok false

/-- An upgrade that writes such images back replaces by them. -/
theorem Upgrade.WritesBack.replaces {upgrade : Upgrade} {image : Document → Document}
    (h : upgrade.WritesBack image) {target : Int64}
    (hsettled : ∀ document, IsSettled target (image document)) : upgrade.Replaces target := by
  intro document handle after houtcome
  obtain ⟨hlower, hhigher⟩ := isSettled_iff.1 (hsettled document)
  obtain ⟨made, -, ⟨error, hfailed⟩ | ⟨wrap, written, hwritten, hresult⟩⟩ := h document handle
  · rw [hfailed] at houtcome
    simp at houtcome
  · rw [hresult] at houtcome
    obtain ⟨hok, rfl⟩ := Prod.mk.inj houtcome
    rcases written with ⟨result, written⟩
    cases result with
    | error error => simp [Except.map, Except.mapError] at hok
    | ok replaced =>
      exact ⟨image document, replaced, written, handle.calls ++ made, written.calls, hwritten.symm,
        rfl, hlower, hhigher⟩

/-- Among documents of which none is newer, the loop leaves settled ones if the upgrade does. -/
theorem Upgraded.forall_isSettled {target : Int64} {before after : List Document}
    (h : List.Forall₂ (Upgraded target fun _ document => IsSettled target document) before after)
    (hnewer : ∀ document ∈ before, isNewer target document = false) :
    ∀ document ∈ after, IsSettled target document := by
  induction h with
  | nil => simp
  | cons hfirst _ ih =>
    rw [List.forall_mem_cons] at hnewer ⊢
    refine ⟨?_, ih hnewer.2⟩
    unfold Upgraded at hfirst
    split at hfirst
    · exact hfirst
    · rename_i hnotOlder
      rw [hfirst]
      exact ⟨by simpa using hnotOlder, hnewer.1⟩

/-- The loop over the older documents of a collection without newer ones leaves only documents that
are settled, if it comes to its end. -/
theorem upgradeEach_settles {target : Int64} {upgrade : Upgrade}
    (hreplaces : upgrade.Replaces target) {handle after : Handle} {count number : ℕ}
    (hids : PlainIds handle.documents)
    (hnewer : ∀ document ∈ handle.documents, isNewer target document = false)
    (hrun : (upgradeEach upgrade count (handle.documents.filter (isOlder target))).outcome handle =
      (.ok number, after)) :
    (∃ documents, after.content = handle.content.map (Collection.withDocuments documents)) ∧
      ∀ document ∈ after.documents, IsSettled target document := by
  have hstep : ∀ document ∈ handle.documents.filter (isOlder target),
      ∀ other middle before behind,
      (SingleIds other.documents ∧
        ∃ documents, other.content = handle.content.map (Collection.withDocuments documents)) →
      other.documents = before ++ document :: behind →
      (upgrade document).outcome other = (.ok (), middle) →
      (SingleIds middle.documents ∧
        ∃ documents, middle.content = handle.content.map (Collection.withDocuments documents)) ∧
      ∃ replacement, middle.documents = before ++ replacement :: behind ∧
        IsSettled target replacement := by
    intro document hdocument other middle before behind ⟨hotherIds, others, hother⟩ hsplit hfirst
    obtain ⟨id, hid, hplain⟩ := hids.plain document (List.mem_filter.1 hdocument).1
    obtain ⟨image, replaced, written, calls, calls', hreplaced, rfl, himage⟩ :=
      hreplaces document other middle hfirst
    rw [hid, Option.getD_some] at hreplaced
    obtain ⟨hcontent, hwrittenIds⟩ := @Action.outcome_replace_single { other with calls := calls }
      written before behind document image id replaced hotherIds hsplit hid hplain hreplaced
    have hdocuments : written.documents = before ++ withId id image :: behind := by
      refine Handle.documents_of_content hcontent fun hnone => ?_
      have hempty : other.content = none := hnone
      simp [Handle.documents, hempty] at hsplit
    refine ⟨⟨?_, before ++ withId id image :: behind, ?_⟩, withId id image, hdocuments, ?_⟩
    · show SingleIds written.documents
      rwa [hdocuments]
    · show written.content = _
      rw [hcontent]
      show other.content.map _ = _
      rw [hother, Option.map_map]
      rfl
    · exact (isSettled_iff.2 himage).of_at? (at?_versionPath_withId id image)
  have hstart : handle.content =
      handle.content.map (Collection.withDocuments handle.documents) :=
    handle.content_withDocuments.symm
  obtain ⟨⟨-, hcontent⟩, left, hafter, hupgraded⟩ :=
    upgradeEach_forall₂ hstep ⟨hids.single, handle.documents, hstart⟩
      (List.nil_append handle.documents).symm rfl hrun
  refine ⟨hcontent, ?_⟩
  rw [hafter, List.nil_append]
  exact Upgraded.forall_isSettled hupgraded hnewer

namespace VersionedCollection

variable {versioned : VersionedCollection} {handle : Handle}

/-- An activation that succeeds leaves only documents that are settled, and changes nothing in the
collection but its documents. -/
theorem activateOn_settles (hreplaces : versioned.upgrade.Replaces versioned.target) {count : ℕ}
    (hids : PlainIds handle.documents)
    (hrun : (versioned.activateOn.run handle).1.1 = .ok count) :
    (∃ documents, (versioned.activateOn.run handle).2.content =
        handle.content.map (Collection.withDocuments documents)) ∧
      ∀ document ∈ (versioned.activateOn.run handle).2.documents,
        IsSettled versioned.target document := by
  obtain ⟨-, hnewer, heach⟩ := activateOn_eq_ok hrun
  -- The calls so far have been logged, and the documents are those at the start.
  exact @upgradeEach_settles _ _ hreplaces ((handle.logged .count).logged .find) _ _ _ hids hnewer
    heach

/-- Where all documents are settled, an activation succeeds and only reads: it makes two calls and
hands nothing to the upgrade. -/
theorem activateOn_of_settled (hfaults : handle.faults = .none)
    (hsettled : ∀ document ∈ handle.documents, IsSettled versioned.target document) :
    (versioned.activateOn.run handle).1.1 = .ok 0 ∧
      (versioned.activateOn.run handle).2 = (handle.logged .count).logged .find ∧
      versioned.handOvers handle = [] := by
  have hnoneNewer : Collection.matching (higherVersions versioned.target) handle.documents =
      .ok [] := by
    rw [Collection.matching_of_total fun document _ =>
      accepts_higherVersions versioned.target document, Except.ok.injEq, List.filter_eq_nil_iff]
    intro document hdocument
    simp [(hsettled document hdocument).2]
  have hnoneOlder : Collection.matching (lowerVersions versioned.target) handle.documents =
      .ok [] := by
    rw [Collection.matching_of_total fun document _ =>
      accepts_lowerVersions versioned.target document, Except.ok.injEq, List.filter_eq_nil_iff]
    intro document hdocument
    simp [(hsettled document hdocument).1]
  have hguard : (hasHigherVersion versioned.target).outcome handle =
      (.ok false, handle.logged .count) := by
    have hcount := Action.outcome_count_none (higherVersions versioned.target) hfaults
    rw [hnoneNewer] at hcount
    unfold hasHigherVersion
    rw [Action.outcome_bind_ok hcount]
    rfl
  have hfind : (Action.find (lowerVersions versioned.target) {}).outcome (handle.logged .count) =
      (.ok ⟨[], none⟩, (handle.logged .count).logged .find) := by
    have hlogged : (handle.logged .count).faults = .none := hfaults
    have hsame : (handle.logged .count).documents = handle.documents := rfl
    rw [Action.outcome_find_none _ _ hlogged, hsame, hnoneOlder]
    rfl
  have hlower : (upgradeLower versioned.target versioned.upgrade).outcome (handle.logged .count) =
      (.ok 0, (handle.logged .count).logged .find) := by
    rw [outcome_upgradeLower, hfind]
    rfl
  have hhanded : versioned.handOvers handle = [] := by
    unfold handOvers lowerHandOvers
    rw [hguard]
    simp only [hfind]
    rfl
  rw [activateOn_run, hguard]
  simpa only [hlower, true_and] using hhanded

end VersionedCollection

end VersionedStore
