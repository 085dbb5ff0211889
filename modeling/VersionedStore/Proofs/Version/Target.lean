import VersionedStore.Proofs.Filter.Integers
import VersionedStore.Proofs.Version.Resumption

/-!
# Which documents an activation brings to its version

An activation that succeeds has handed over every document whose marker is missing or below the
target, and has seen no marker above it.  A marker that stands in no order to the target is neither:
text, null, what is not a number and the like.  Its document stays as it is, and has version zero.

* `isPassedOver`: whether the marker of a document is of that kind.
* `Value.evades_of_isNumber`: no number is, as long as doubles tell the target from other integers.
* `upgradeEach_forall₂`: what the upgrade does to one document, the loop does to all it hands over.
* `upgradeEach_brings`: so they are brought to the version.
* `Attempt.activation_reaches_target`: all documents are at the version if none is passed over.
-/

set_option autoImplicit false

namespace VersionedStore

/-! ### Markers without an order -/

/-- The version of a document is the one that the value at the path of versions marks. -/
theorem Document.version_eq (document : Document) :
    document.version =
      ((Document.at? document versionPath).bind Value.asVersion?).getD 0 := by
  have hnames : pathNames versionPath = ["meta", "version"] := by decide
  unfold Document.version Document.at?
  rw [hnames, Value.descend]
  cases hmeta : Document.get? document "meta" with
  | none => rfl
  | some value =>
    cases value with
    | document fields =>
      simp only [Value.descend]
      cases Document.get? fields "version" <;> rfl
    | _ => rfl

/-- A marker at the path of versions is the version of the document. -/
theorem Document.version_of_at? {document : Document} {version : Int64}
    (h : Document.at? document versionPath = some (.int64 version)) :
    document.version = version := by
  rw [Document.version_eq, h]
  rfl

namespace Value

/-- Whether a marker stands in no strict order to a version that it does not mark. -/
def evades (target : Int64) (marker : Value) : Bool :=
  !Condition.ordered (· == .lt) (some marker) (.int64 target) &&
    !Condition.ordered (· == .gt) (some marker) (.int64 target) &&
    marker.asVersion?.getD 0 != target

/-- Whether a value is a number. -/
def isNumber : Value → Bool
  | .int32 _ => true
  | .int64 _ => true
  | .double d => !d.isNaN
  | _ => false

/-- A number that stands in no strict order to a version stands where the version stands. -/
theorem evades_of_number {marker : Value} {d : Double} {target : Int64}
    (hmarker : marker.comparand = .number d) (hnumber : d.isNaN = false)
    (hversion : d.orderKey = (Double.ofInt target.toInt).orderKey →
      marker.asVersion? = some target) : marker.evades target = false := by
  unfold evades
  rw [Condition.ordered_of_number hmarker hnumber, Condition.ordered_of_number hmarker hnumber]
  cases hcompare : compare d.orderKey (Double.ofInt target.toInt).orderKey with
  | lt => rfl
  | gt => rfl
  | eq =>
    rw [hversion (Int.compare_eq_eq.1 hcompare)]
    simp

/-- No number evades a version below `2 ^ 53`. -/
theorem evades_of_isNumber {target : Int64} (hpos : 1 ≤ target) (hlt : target.toInt < 2 ^ 53)
    {marker : Value} (h : marker.isNumber = true) : marker.evades target = false := by
  have hposInt : 1 ≤ target.toInt := Int64.le_iff_toInt_le.1 hpos
  have hsmall : target.toInt.natAbs < 2 ^ 53 := by omega
  cases marker with
  | int32 i =>
    refine evades_of_number (d := Double.ofInt i.toInt) (by simp [comparand, Comparand.ofValue])
      (Double.isNaN_ofInt _) fun hkey => ?_
    rw [← Int32.toInt_toInt64] at hkey
    exact congrArg some (Int64.toInt_inj.1
      ((Double.orderKey_ofInt_inj (Double.natAbs_toInt_lt _) hsmall).1 hkey))
  | int64 i =>
    refine evades_of_number (d := Double.ofInt i.toInt) (by simp [comparand, Comparand.ofValue])
      (Double.isNaN_ofInt _) fun hkey => ?_
    exact congrArg some (Int64.toInt_inj.1
      ((Double.orderKey_ofInt_inj (Double.natAbs_toInt_lt _) hsmall).1 hkey))
  | double d =>
    have hnumber : d.isNaN = false := by simpa [isNumber] using h
    refine evades_of_number (by simp [comparand, Comparand.ofValue]) hnumber fun hkey => ?_
    exact congrArg some (Double.toInt64_eq_of_orderKey hpos hlt hnumber hkey)
  | _ => simp [isNumber] at h

end Value

/-- Whether an activation that sees no newer documents leaves a document at another version. -/
def isPassedOver (target : Int64) (document : Document) : Bool :=
  match Document.at? document versionPath with
  | none => false
  | some marker => marker.evades target

/-- Documents without a marker are not passed over. -/
theorem isPassedOver_of_older {target : Int64} {document : Document}
    (h : isOlder target document = true) : isPassedOver target document = false := by
  rw [isOlder_eq] at h
  unfold isPassedOver
  cases hmarker : Document.at? document versionPath with
  | none => rfl
  | some marker =>
    have hbelow : Condition.ordered (· == .lt) (some marker) (.int64 target) = true := by
      simpa [hmarker] using h
    simp [Value.evades, hbelow]

/-- A document that is neither older nor newer is passed over if it is not at the version. -/
theorem isPassedOver_of_neither {target : Int64} {document : Document}
    (holder : isOlder target document = false) (hnewer : isNewer target document = false) :
    isPassedOver target document = (document.version != target) := by
  rw [isOlder_eq, Bool.or_eq_false_iff] at holder
  unfold isNewer at hnewer
  unfold isPassedOver
  rw [Document.version_eq]
  cases hmarker : Document.at? document versionPath with
  | none => simp [hmarker] at holder
  | some marker =>
    rw [hmarker] at holder hnewer
    simp [Value.evades, holder.1, hnewer]

/-! ### What is handed over -/

/-- An upgrade that puts a document with the marker of a version in the place of each document that
it is given, under the same identity, unless it fails. -/
def Upgrade.Stamps (upgrade : Upgrade) (target : Int64) : Prop :=
  ∀ document handle after before behind, PlainIds handle.documents →
    handle.documents = before ++ document :: behind →
    (upgrade document).outcome handle = (.ok (), after) →
    ∃ replacement, after.documents = before ++ replacement :: behind ∧
      Document.get? replacement idField = Document.get? document idField ∧
      Document.at? replacement versionPath = some (.int64 target)

/-- An upgrade that writes images with the marker back stamps them. -/
theorem Upgrade.WritesBack.stamps {upgrade : Upgrade} {image : Document → Document}
    (h : upgrade.WritesBack image)
    (hkeep : ∀ document, Document.get? (image document) idField = Document.get? document idField)
    {target : Int64}
    (hmarker : ∀ document, Document.at? (image document) versionPath = some (.int64 target)) :
    upgrade.Stamps target := by
  intro document handle after before behind hids hdocuments houtcome
  refine ⟨image document, ?_, hkeep document, hmarker document⟩
  rcases h.outcome hkeep hdocuments hids with
    ⟨error, after', houtcome', -⟩ | ⟨after', houtcome', hcontent⟩
  · rw [houtcome'] at houtcome
    simp at houtcome
  · rw [houtcome'] at houtcome
    obtain ⟨-, rfl⟩ := Prod.mk.inj houtcome
    refine Handle.documents_of_content hcontent fun hnone => ?_
    simp [Handle.documents, hnone] at hdocuments

/-- What an activation makes of a document: an older one gives way to one with its identity and the
marker of the version, and others stay. -/
def Brought (target : Int64) (before after : Document) : Prop :=
  if isOlder target before then
    Document.get? after idField = Document.get? before idField ∧
      Document.at? after versionPath = some (.int64 target)
  else after = before

/-- Where no newer document has been seen, a document is brought to the version unless it is passed
over. -/
theorem Brought.version_eq_iff {target : Int64} {before after : Document}
    (h : Brought target before after) (hnewer : isNewer target before = false) :
    after.version = target ↔ isPassedOver target before = false := by
  unfold Brought at h
  split at h
  · rename_i holder
    rw [Document.version_of_at? h.2, isPassedOver_of_older holder]
    simp
  · rename_i hnotOlder
    rw [Bool.not_eq_true] at hnotOlder
    rw [h, isPassedOver_of_neither hnotOlder hnewer]
    simp

/-- Documents that have been brought to a version are all at it if none of them was passed over. -/
theorem Brought.forall_version_eq_iff {target : Int64} {before after : List Document}
    (h : List.Forall₂ (Brought target) before after)
    (hnewer : ∀ document ∈ before, isNewer target document = false) :
    (∀ document ∈ after, document.version = target) ↔
      ∀ document ∈ before, isPassedOver target document = false := by
  induction h with
  | nil => simp
  | cons hfirst _ ih =>
    rw [List.forall_mem_cons] at hnewer
    rw [List.forall_mem_cons, List.forall_mem_cons, hfirst.version_eq_iff hnewer.1, ih hnewer.2]

/-- What a loop over the older documents makes of one of them, by what its upgrade does to it;
others stay. -/
def Upgraded (target : Int64) (R : Document → Document → Prop) (before after : Document) : Prop :=
  if isOlder target before then R before after else after = before

/-- A loop leaves documents alone of which none is below the version. -/
theorem Upgraded.forall₂_of_not_older {target : Int64} {R : Document → Document → Prop}
    {documents : List Document} (h : ∀ document ∈ documents, isOlder target document = false) :
    List.Forall₂ (Upgraded target R) documents documents := by
  refine List.forall₂_same.2 fun document hdocument => ?_
  unfold Upgraded
  rw [if_neg (by rw [h document hdocument]; exact Bool.false_ne_true)]

/-- The loop over the older documents of a stretch does to each what the upgrade does to it, if it
comes to its end, and keeps what the upgrade keeps. -/
theorem upgradeEach_forall₂ {target : Int64} {upgrade : Upgrade}
    {R : Document → Document → Prop} {Inv : Handle → Prop} {documents : List Document}
    (hstep : ∀ document ∈ documents, ∀ handle after before behind, Inv handle →
      handle.documents = before ++ document :: behind →
      (upgrade document).outcome handle = (.ok (), after) →
      Inv after ∧ ∃ replacement, after.documents = before ++ replacement :: behind ∧
        R document replacement)
    {handle after : Handle} {done left : List Document} {count number : ℕ} (hinv : Inv handle)
    (hdocuments : handle.documents = done ++ left)
    (hleft : left.filter (isOlder target) = documents)
    (hrun : (upgradeEach upgrade count documents).outcome handle = (.ok number, after)) :
    Inv after ∧ ∃ left', after.documents = done ++ left' ∧
      List.Forall₂ (Upgraded target R) left left' := by
  induction documents generalizing handle done left count with
  | nil =>
    obtain ⟨-, rfl⟩ := Prod.mk.inj hrun
    refine ⟨hinv, left, hdocuments, Upgraded.forall₂_of_not_older fun document hdocument => ?_⟩
    simpa using List.filter_eq_nil_iff.1 hleft document hdocument
  | cons document rest ih =>
    -- The stretch that is left is split at its first older document.
    obtain ⟨before, behind, rfl, hbefore, holder, hbehind⟩ := List.filter_eq_cons_iff.1 hleft
    unfold upgradeEach at hrun
    obtain ⟨_, middle, hfirst, hrest⟩ := Action.outcome_bind_eq_ok hrun
    rw [← List.append_assoc] at hdocuments
    obtain ⟨hmiddleInv, replacement, hmiddle, hreplaced⟩ :=
      hstep document List.mem_cons_self handle middle _ _ hinv hdocuments hfirst
    -- What has been dealt with now reaches behind the replacement.
    have hsplit : middle.documents = (done ++ before ++ [replacement]) ++ behind := by
      rw [hmiddle]
      simp
    obtain ⟨hafterInv, behind', hafter, hupgraded⟩ :=
      ih (fun other hother => hstep other (List.mem_cons_of_mem _ hother)) hmiddleInv hsplit hbehind
        hrest
    refine ⟨hafterInv, before ++ replacement :: behind', ?_, ?_⟩
    · rw [hafter]
      simp
    · have hdocument : Upgraded target R document replacement := by
        unfold Upgraded
        rw [if_pos holder]
        exact hreplaced
      refine List.rel_append ?_ (List.Forall₂.cons hdocument hupgraded)
      exact Upgraded.forall₂_of_not_older fun other hother => by simpa using hbefore other hother

/-- The loop over the older documents of a stretch brings that stretch to the version, if it comes
to its end. -/
theorem upgradeEach_brings {target : Int64} {upgrade : Upgrade} (hstamps : upgrade.Stamps target)
    {handle after : Handle} {done left documents : List Document} {count number : ℕ}
    (hids : PlainIds handle.documents) (hdocuments : handle.documents = done ++ left)
    (hleft : left.filter (isOlder target) = documents)
    (hrun : (upgradeEach upgrade count documents).outcome handle = (.ok number, after)) :
    (∃ left', after.documents = done ++ left' ∧ List.Forall₂ (Brought target) left left') ∧
      (handle.content.isSome = true → after.content.isSome = true) := by
  have hstep : ∀ document ∈ documents, ∀ other middle before behind,
      (PlainIds other.documents ∧
        (handle.content.isSome = true → other.content.isSome = true)) →
      other.documents = before ++ document :: behind →
      (upgrade document).outcome other = (.ok (), middle) →
      (PlainIds middle.documents ∧
        (handle.content.isSome = true → middle.content.isSome = true)) ∧
      ∃ replacement, middle.documents = before ++ replacement :: behind ∧
        (Document.get? replacement idField = Document.get? document idField ∧
          Document.at? replacement versionPath = some (.int64 target)) := by
    intro document _ other middle before behind ⟨hotherIds, _⟩ hother hfirst
    obtain ⟨replacement, hmiddle, hid, hmarker⟩ :=
      hstamps document other middle before behind hotherIds hother hfirst
    refine ⟨⟨?_, fun _ => ?_⟩, replacement, hmiddle, hid, hmarker⟩
    · refine hotherIds.of_map_id_eq ?_
      rw [hmiddle, hother]
      simp [hid]
    · cases hcontent : middle.content with
      | none => simp [Handle.documents, hcontent] at hmiddle
      | some collection => rfl
  obtain ⟨⟨-, hsome⟩, hbrought⟩ := upgradeEach_forall₂ hstep ⟨hids, id⟩ hdocuments hleft hrun
  exact ⟨hbrought, hsome⟩

/-- A guard that completes tells whether the marker of some document is above the version. -/
theorem hasHigherVersion_eq_ok {target : Int64} {handle after : Handle} {newer : Bool}
    (h : (hasHigherVersion target).outcome handle = (.ok newer, after)) :
    newer = handle.documents.any (isNewer target) := by
  unfold hasHigherVersion at h
  obtain ⟨number, middle, hcount, hresult⟩ := Action.outcome_bind_eq_ok h
  have hnewer : newer = decide (0 < number) := (Except.ok.inj (congrArg Prod.fst hresult)).symm
  have hrun := Action.outcome_perform_eq_ok hcount
  cases hcontent : handle.content with
  | none =>
    simp only [Handle.logged_content, hcontent, Prod.mk.injEq, Except.ok.injEq] at hrun
    simp [hnewer, ← hrun.1, Handle.documents, hcontent]
  | some collection =>
    have hmatching : Collection.matching (higherVersions target) collection.documents =
        .ok (collection.documents.filter (isNewer target)) :=
      Collection.matching_of_total fun document _ => accepts_higherVersions target document
    simp only [Handle.logged_content, hcontent, Collection.count, hmatching, Except.map,
      Prod.mk.injEq, Except.ok.injEq] at hrun
    rw [hnewer, ← hrun.1, Bool.eq_iff_iff]
    simp [Handle.documents, hcontent, List.length_pos_iff_exists_mem]

/-- A guard that finds no newer documents has looked at all of them. -/
theorem isNewer_of_hasHigherVersion {target : Int64} {handle after : Handle}
    (h : (hasHigherVersion target).outcome handle = (.ok false, after)) :
    ∀ document ∈ handle.documents, isNewer target document = false := by
  have hnone := (hasHigherVersion_eq_ok h).symm
  rw [List.any_eq_false] at hnone
  intro document hdocument
  simpa using hnone document hdocument

namespace VersionedCollection

/-- An activation that succeeds has seen no newer documents and has handed over all older ones. -/
theorem activateOn_eq_ok {versioned : VersionedCollection} {handle : Handle} {count : ℕ}
    (hrun : (versioned.activateOn.run handle).1.1 = .ok count) :
    (versioned.activateOn.run handle).1.2.state = .migrated ∧
      (∀ document ∈ handle.documents, isNewer versioned.target document = false) ∧
      (upgradeEach versioned.upgrade 0 (handle.documents.filter (isOlder versioned.target))).outcome
        ((handle.logged .count).logged .find) =
          (.ok count, (versioned.activateOn.run handle).2) := by
  obtain ⟨result, hguard⟩ := outcome_hasHigherVersion versioned.target handle
  rw [activateOn_run, hguard] at hrun ⊢
  cases result with
  | error error => simp at hrun
  | ok newer =>
    cases newer with
    | true => simp at hrun
    | false =>
      rcases hlower : (upgradeLower versioned.target versioned.upgrade).outcome
        (handle.logged .count) with ⟨result, after⟩
      simp only [hlower] at hrun ⊢
      cases result with
      | error error => simp at hrun
      | ok done =>
        obtain rfl := Except.ok.inj hrun
        exact ⟨rfl, isNewer_of_hasHigherVersion hguard, upgradeLower_eq_ok hlower⟩

/-- And so it has brought them to the version, and has left the others. -/
theorem activateOn_brings {versioned : VersionedCollection}
    (hstamps : versioned.upgrade.Stamps versioned.target) {handle : Handle} {count : ℕ}
    (hids : PlainIds handle.documents)
    (hrun : (versioned.activateOn.run handle).1.1 = .ok count) :
    (versioned.activateOn.run handle).1.2.state = .migrated ∧
      (∀ document ∈ handle.documents, isNewer versioned.target document = false) ∧
      List.Forall₂ (Brought versioned.target) handle.documents
        (versioned.activateOn.run handle).2.documents ∧
      (handle.content.isSome = true →
        (versioned.activateOn.run handle).2.content.isSome = true) := by
  obtain ⟨hstate, hnewer, heach⟩ := activateOn_eq_ok hrun
  -- The calls so far have been logged, and the documents are those at the start.
  have hloggedIds : PlainIds ((handle.logged .count).logged .find).documents := hids
  have hdocuments : ((handle.logged .count).logged .find).documents =
      [] ++ handle.documents := rfl
  obtain ⟨⟨left, hafter, hbrought⟩, hsome⟩ :=
    upgradeEach_brings hstamps hloggedIds hdocuments rfl heach
  refine ⟨hstate, hnewer, ?_, hsome⟩
  rw [hafter]
  exact hbrought

end VersionedCollection

namespace Attempt

/-- Take a reachable store with a collection of plain identities, and an upgrade that puts a
document with the marker of the target in the place of each one that it is given.  If an activation
succeeds, the collection counts as migrated, and each document that was older has given way to one
with its identity and that marker, while the others are as they were.  All documents are at the
target then if none was passed over; and none was if every marker there is a number, as long as the
target is below `2 ^ 53`. -/
theorem activation_reaches_target {session : Session} (hstore : session.store.Reachable)
    {name : String} (hplain : ∀ document ∈ session.store.documents name, ∀ id,
      Document.get? document idField = some id → id.isPlainId = true)
    {attempt : Attempt} (hstamps : attempt.versioned.upgrade.Stamps attempt.versioned.target)
    {count : ℕ} (hrun : (attempt.run session name).1 = .ok count) :
    (attempt.versioned.activate { session with faults := attempt.faults } name).2.1.state =
        .migrated ∧
      List.Forall₂ (Brought attempt.versioned.target) (session.store.documents name)
        ((attempt.run session name).2.store.documents name) ∧
      ((∀ document ∈ (attempt.run session name).2.store.documents name,
          document.version = attempt.versioned.target) ↔
        ∀ document ∈ session.store.documents name,
          isPassedOver attempt.versioned.target document = false) ∧
      (attempt.versioned.target.toInt < 2 ^ 53 →
        (∀ document ∈ session.store.documents name, ∀ marker,
          Document.at? document versionPath = some marker → marker.isNumber = true) →
        ∀ document ∈ (attempt.run session name).2.store.documents name,
          document.version = attempt.versioned.target) := by
  have hids : PlainIds (Session.handle { session with faults := attempt.faults } name).documents :=
    plainIds_of_reachable hstore name hplain
  obtain ⟨hstate, hnewer, hbrought, hsome⟩ :=
    VersionedCollection.activateOn_brings hstamps hids hrun
  have hafter : (attempt.run session name).2.store.documents name =
      (attempt.versioned.activateOn.run
        (Session.handle { session with faults := attempt.faults } name)).2.documents := by
    rw [run_store]
    exact Session.documents_adopt hsome
  rw [← hafter] at hbrought
  have hiff := Brought.forall_version_eq_iff hbrought hnewer
  refine ⟨hstate, hbrought, hiff, fun hlt hnumbers => hiff.2 fun document hdocument => ?_⟩
  unfold isPassedOver
  cases hmarker : Document.at? document versionPath with
  | none => rfl
  | some marker =>
    exact Value.evades_of_isNumber attempt.versioned.one_le_target hlt
      (hnumbers document hdocument marker hmarker)

/-- A session on a collection with one document, which has a marker. -/
def markedSession (marker : Value) : Session :=
  [Change.insert "articles"
    [[(idField, .int32 1), ("meta", .document [("version", marker)])]]].foldl
      Change.run { store := { database := "db", ids := ⟨⟨0⟩, 0⟩ } }

/-- The one document of the collection has the marker. -/
theorem markedSession_documents (marker : Value) :
    (markedSession marker).store.documents "articles" =
      [[(idField, .int32 1), ("meta", .document [("version", marker)])]] := by rfl

/-- The store of that session can be reached. -/
theorem markedSession_reachable (marker : Value) : (markedSession marker).store.Reachable :=
  Store.Reachable.foldl_run _ (.fresh "db" ⟨⟨0⟩, 0⟩)

/-- The one document of the collection has a plain identity. -/
theorem markedSession_plain (marker : Value) :
    ∀ document ∈ (markedSession marker).store.documents "articles", ∀ id,
      Document.get? document idField = some id → id.isPlainId = true := by
  intro document hdocument id hid
  rw [markedSession_documents, List.mem_singleton] at hdocument
  subst hdocument
  cases hid
  rfl

/-- Setting the marker of version two stamps documents with it. -/
theorem markTwo_stamps : markTwo.upgrade.Stamps 2 :=
  markTwo.writesBack.stamps (Rewrite.marking 2).keeps_id fun document =>
    Document.at?_versionPath_set document _

/-- The statement for a document with an integer below the target. -/
theorem activation_reaches_target_integer :
    ((markingAttempt []).run (markedSession (.int32 1)) "articles").1 = .ok 1 ∧
      ∀ document ∈ ((markingAttempt []).run (markedSession (.int32 1)) "articles").2.store.documents
        "articles", document.version = 2 := by
  have hrun : ((markingAttempt []).run (markedSession (.int32 1)) "articles").1 = .ok 1 := by rfl
  have hstamps : (markingAttempt []).versioned.upgrade.Stamps
      (markingAttempt []).versioned.target := markTwo_stamps
  obtain ⟨-, -, -, hreaches⟩ := activation_reaches_target
    (markedSession_reachable (.int32 1)) (markedSession_plain _) hstamps hrun
  refine ⟨hrun, hreaches (by decide) fun document hdocument marker hmarker => ?_⟩
  rw [markedSession_documents, List.mem_singleton] at hdocument
  subst hdocument
  cases hmarker
  rfl

/-- A document whose marker is text is left at version zero by an activation that succeeds. -/
theorem activation_passes_over_text :
    (markedSession (.string "1")).store.Reachable ∧
      (∀ document ∈ (markedSession (.string "1")).store.documents "articles", ∀ id,
        Document.get? document idField = some id → id.isPlainId = true) ∧
      (markingAttempt []).versioned.upgrade.Stamps 2 ∧
      ((markingAttempt []).versioned.activate
        { markedSession (.string "1") with faults := (markingAttempt []).faults }
          "articles").2.1.state = .migrated ∧
      ((markingAttempt []).run (markedSession (.string "1")) "articles").1 = .ok 0 ∧
      (((markingAttempt []).run (markedSession (.string "1")) "articles").2.store.documents
        "articles").map Document.version = [0] :=
  ⟨markedSession_reachable _, markedSession_plain _, markTwo_stamps, by rfl, by rfl, by rfl⟩

end Attempt

end VersionedStore
