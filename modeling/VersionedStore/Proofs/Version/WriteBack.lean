import VersionedStore.Proofs.Store.Uniqueness
import VersionedStore.Proofs.Version.HandOver
import VersionedStore.Proofs.Version.Progress
import VersionedStore.Version.FieldChange

/-!
# Upgrades that write documents back

An upgrade writes a document back when it replaces it, under its identity, by an image.  The
loop over the older documents hands them to the upgrade one by one; here it is followed hand-over
by hand-over.

* `PlainIds`, `SingleIds`: identities by which each document is found, and no other.
* `Action.outcome_replace_id`: a replacement under an identity fails and changes nothing, or
  takes the place of the document of that identity.
* `Upgrade.WritesBack`: what is asked of an upgrade.
* `Upgrade.WritesBack.outcome`, `Upgrade.WritesBack.writesOnce`: what one hand-over to it does to the
  documents, and how many replacements it makes.
* `upgradeEach_advances`: however far the loop comes, it deals with documents at the front.
-/

set_option autoImplicit false

namespace VersionedStore

/-- Every document has a plain identity, and no two have the same. -/
structure PlainIds (documents : List Document) : Prop where
  plain : ∀ document ∈ documents,
    ∃ id, Document.get? document idField = some id ∧ id.isPlainId = true
  differ : documents.Pairwise fun a b => sameId a b = false

/-- Every document has an identity that is no array, and no two have the same. -/
structure SingleIds (documents : List Document) : Prop where
  single : ∀ document ∈ documents,
    ∃ id, Document.get? document idField = some id ∧ id.isArray = false
  differ : documents.Pairwise fun a b => sameId a b = false

/-- Plain identities are no arrays. -/
theorem PlainIds.single {documents : List Document} (h : PlainIds documents) :
    SingleIds documents := by
  refine ⟨fun document hdocument => ?_, h.differ⟩
  obtain ⟨id, hid, hplain⟩ := h.plain document hdocument
  exact ⟨id, hid, Value.not_isArray_of_isPlainId hplain⟩

/-- Documents with the same identities at the same places have plain identities alike. -/
theorem PlainIds.of_map_id_eq {documents documents' : List Document} (h : PlainIds documents)
    (hids : documents'.map (fun document => Document.get? document idField) =
      documents.map fun document => Document.get? document idField) : PlainIds documents' := by
  refine ⟨?_, ?_⟩
  · intro document hdocument
    have hmem : Document.get? document idField ∈
        documents.map fun document => Document.get? document idField :=
      hids ▸ List.mem_map_of_mem hdocument
    obtain ⟨original, horiginal, hid⟩ := List.mem_map.1 hmem
    rw [← hid]
    exact h.plain original horiginal
  · -- Whether two documents have the same identity depends on their identities alone.
    have hdiffer : (documents.map fun document => Document.get? document idField).Pairwise
        fun id other => ∀ a b, Document.get? a idField = id → Document.get? b idField = other →
          sameId a b = false := by
      refine List.pairwise_map.2 (h.differ.imp fun hdiffer a b ha hb => ?_)
      unfold sameId at hdiffer ⊢
      rwa [ha, hb]
    rw [← hids] at hdiffer
    exact (List.pairwise_map.1 hdiffer).imp fun hdiffer => hdiffer _ _ rfl rfl

/-- A collection with other documents. -/
def Collection.withDocuments (documents : List Document) (collection : Collection) : Collection :=
  { collection with documents := documents }

namespace Collection

/-- The filter for a plain identity splits at the document that has it. -/
theorem splitAtFirst_id {before behind : List Document} {current : Document} {id : Value}
    (hids : SingleIds (before ++ current :: behind))
    (hcurrent : Document.get? current idField = some id) (hplain : id.isPlainId = true) :
    splitAtFirst [(idField, id)] (before ++ current :: behind) =
      .ok (some (before, current, behind)) := by
  refine splitAtFirst_of_first ?_ ?_
  · intro document hdocument
    obtain ⟨other, hother, harray⟩ := hids.single document (by simp [hdocument])
    have hdiffer : sameId document current = false :=
      (List.pairwise_append.1 hids.differ).2.2 document hdocument current List.mem_cons_self
    rw [Filter.accepts_id hother harray hplain]
    simpa only [sameId, hother, hcurrent] using congrArg Except.ok hdiffer
  · rw [Filter.accepts_id hcurrent (Value.not_isArray_of_isPlainId hplain) hplain,
      Value.looselyEquals_self hplain]

/-- A replacement under a plain identity is refused by a unique index, or takes the place of the
document of that identity. -/
theorem replaceFirst_id {collection : Collection} (space : String)
    {before behind : List Document} {current replacement : Document} {id : Value}
    (hdocuments : collection.documents = before ++ current :: behind)
    (hids : PlainIds collection.documents)
    (hcurrent : Document.get? current idField = some id)
    (hreplacement : Document.get? replacement idField = some id) :
    (∃ error, replaceFirst space collection [(idField, id)] replacement = .error error) ∨
      replaceFirst space collection [(idField, id)] replacement =
        .ok (1, collection.withDocuments (before ++ replacement :: behind)) := by
  rw [hdocuments] at hids
  obtain ⟨id', hid', hplain⟩ := hids.plain current (by simp)
  obtain rfl : id = id' := Option.some.inj (hcurrent.symm.trans hid')
  have hsplit := splitAtFirst_id hids.single hcurrent hplain
  have hkeep : keepId space current replacement = .ok replacement := by
    simp [keepId, hcurrent, hreplacement, Value.looselyEquals_self hplain]
  unfold replaceFirst
  simp only [hdocuments, hsplit, hkeep, bind, Except.bind]
  cases checkUnique space collection.indexes (before ++ behind) replacement with
  | error error => exact .inl ⟨error, rfl⟩
  | ok _ => exact .inr rfl

end Collection

/-- A replacement under a plain identity fails and changes nothing, or takes the place of the
document of that identity. -/
theorem Action.outcome_replace_id {handle : Handle} {before behind : List Document}
    {current replacement : Document} {id : Value}
    (hdocuments : handle.documents = before ++ current :: behind)
    (hids : PlainIds handle.documents) (hcurrent : Document.get? current idField = some id)
    (hreplacement : Document.get? replacement idField = some id) :
    let written := (Action.replace [(idField, id)] replacement).outcome handle
    (∃ error, written.1 = .error error ∧ written.2.content = handle.content) ∨
      written.1 = .ok 1 ∧ written.2.content =
        handle.content.map (Collection.withDocuments (before ++ replacement :: behind)) := by
  intro written
  have hwritten : written = (Action.replace [(idField, id)] replacement).outcome handle := rfl
  unfold Action.replace at hwritten
  rw [Action.outcome_perform] at hwritten
  split at hwritten
  · rename_i error _
    exact .inl ⟨error, by rw [hwritten], by rw [hwritten]; rfl⟩
  · cases hcontent : handle.content with
    | none => simp [Handle.documents, hcontent] at hdocuments
    | some collection =>
      have hcollection : collection.documents = before ++ current :: behind := by
        simpa only [Handle.documents, hcontent, Option.map_some, Option.getD_some] using hdocuments
      have hcollectionIds : PlainIds collection.documents := by
        simpa only [Handle.documents, hcontent, Option.map_some, Option.getD_some] using hids
      simp only [Handle.logged_content, hcontent] at hwritten
      rcases Collection.replaceFirst_id (handle.logged .replace).space hcollection hcollectionIds
        hcurrent hreplacement with ⟨error, herror⟩ | hreplaced
      · rw [herror] at hwritten
        exact .inl ⟨error, by rw [hwritten], by rw [hwritten]; exact hcontent⟩
      · rw [hreplaced] at hwritten
        exact .inr ⟨by rw [hwritten], by rw [hwritten]; rfl⟩

/-- An upgrade that writes images back: whatever it calls beforehand, which only adds to the log and
is no replacement, it then fails without writing, or replaces the document under its identity by the
image, and hands on the error of that write, which it may wrap. -/
def Upgrade.WritesBack (upgrade : Upgrade) (image : Document → Document) : Prop :=
  ∀ document handle, ∃ made : List Call, (∀ call ∈ made, call.operation ≠ .replace) ∧
    ((∃ error, (upgrade document).outcome handle =
        (.error error, { handle with calls := handle.calls ++ made })) ∨
      ∃ wrap : Error → Error, ∃ written,
        written = (Action.replace [(idField, (Document.get? document idField).getD .null)]
          (image document)).outcome { handle with calls := handle.calls ++ made } ∧
        (upgrade document).outcome handle =
          ((written.1.map fun _ => ()).mapError wrap, written.2))

/-- Upgrades that change fields write the changed documents back. -/
theorem FieldChange.writesBack (change : FieldChange) : change.upgrade.WritesBack change.apply := by
  intro document handle
  refine ⟨[], by simp, ?_⟩
  rw [List.append_nil]
  unfold FieldChange.upgrade
  by_cases hrefused : change.refuses ((Document.get? document idField).getD .null) = true
  · exact .inl ⟨.validation (.other "upgrade refused"), by simp only [hrefused, if_true]; rfl⟩
  · refine .inr ?_
    simp only [hrefused, Bool.false_eq_true, if_false]
    cases change.context with
    | none =>
      refine ⟨id, _, rfl, (Action.outcome_discard _ handle).trans ?_⟩
      rcases (Action.replace [(idField, (Document.get? document idField).getD .null)]
        (change.apply document)).outcome handle with ⟨result, after⟩
      cases result <;> rfl
    | some context =>
      refine ⟨Error.during context, _, rfl, (Action.outcome_discard _ handle).trans ?_⟩
      rw [Action.outcome_during]
      rcases (Action.replace [(idField, (Document.get? document idField).getD .null)]
        (change.apply document)).outcome handle with ⟨result, after⟩
      cases result <;> rfl

namespace HandOver

/-- An upgrade that succeeded put the image in the place of the document, and one that failed left
all documents as they were. -/
def Faithful (image : Document → Document) (handOver : HandOver) : Prop :=
  if handOver.succeeded then
    ∃ before behind, handOver.before.documents = before ++ handOver.document :: behind ∧
      handOver.after.documents = before ++ image handOver.document :: behind
  else handOver.after.documents = handOver.before.documents

end HandOver

/-- The documents of a handle, when its content has them in the place of others. -/
theorem Handle.documents_of_content {handle after : Handle} {documents : List Document}
    (h : after.content = handle.content.map (Collection.withDocuments documents))
    (hnone : handle.content = none → documents = []) : after.documents = documents := by
  unfold Handle.documents
  rw [h]
  cases hcontent : handle.content with
  | none => exact (hnone hcontent).symm
  | some collection => rfl

/-- The documents of a handle are those of its content. -/
theorem Handle.content_withDocuments (handle : Handle) :
    handle.content.map (Collection.withDocuments handle.documents) = handle.content := by
  unfold Handle.documents
  cases handle.content <;> rfl

/-- A document handed to an upgrade that writes back is replaced by its image in its place, or the
upgrade fails and nothing changes. -/
theorem Upgrade.WritesBack.outcome {upgrade : Upgrade} {image : Document → Document}
    (h : upgrade.WritesBack image)
    (hkeep : ∀ document, Document.get? (image document) idField = Document.get? document idField)
    {handle : Handle} {before behind : List Document} {document : Document}
    (hdocuments : handle.documents = before ++ document :: behind)
    (hids : PlainIds handle.documents) :
    (∃ error after, (upgrade document).outcome handle = (.error error, after) ∧
        after.content = handle.content) ∨
      ∃ after, (upgrade document).outcome handle = (.ok (), after) ∧
        after.content =
          handle.content.map (Collection.withDocuments (before ++ image document :: behind)) := by
  obtain ⟨id, hid, -⟩ := hids.plain document (by simp [hdocuments])
  obtain ⟨made, -, ⟨error, hfailed⟩ | ⟨wrap, written, hwritten, houtcome⟩⟩ := h document handle
  · exact .inl ⟨error, _, hfailed, rfl⟩
  · rw [hid, Option.getD_some] at hwritten
    have hreplaced := @Action.outcome_replace_id { handle with calls := handle.calls ++ made } before
      behind document (image document) id hdocuments hids hid ((hkeep document).trans hid)
    rw [← hwritten] at hreplaced
    rcases hreplaced with ⟨error, hresult, hcontent⟩ | ⟨hresult, hcontent⟩
    · refine .inl ⟨wrap error, written.2, ?_, hcontent⟩
      rw [houtcome, hresult]
      rfl
    · refine .inr ⟨written.2, ?_, hcontent⟩
      rw [houtcome, hresult]
      rfl

/-- A replacement is one call, whatever comes of it. -/
theorem Action.outcome_replace_calls (filter replacement : Document) (handle : Handle) :
    ((Action.replace filter replacement).outcome handle).2.calls =
      handle.calls ++ [⟨handle.name, .replace⟩] := by
  unfold Action.replace
  rw [outcome_perform]
  split
  · rfl
  · split
    · rfl
    · split <;> rfl

/-- An upgrade that writes back makes one replacement, or fails before it has made one. -/
theorem Upgrade.WritesBack.writesOnce {upgrade : Upgrade} {image : Document → Document}
    (h : upgrade.WritesBack image) {handOver : HandOver}
    (houtcome : (upgrade handOver.document).outcome handOver.before =
      (handOver.result, handOver.after)) : handOver.WritesOnce := by
  obtain ⟨made, hmade, ⟨error, hfailed⟩ | ⟨wrap, written, hwritten, hwrote⟩⟩ :=
    h handOver.document handOver.before
  · rw [houtcome] at hfailed
    obtain ⟨hresult, hafter⟩ := Prod.mk.inj hfailed
    refine ⟨0, Nat.zero_le 1, ?_, fun hsucceeded => ?_⟩
    · rw [hafter, replacements_append, replacements_of_ne hmade]
    · simp [HandOver.succeeded, hresult] at hsucceeded
  · rw [houtcome] at hwrote
    obtain ⟨-, hafter⟩ := Prod.mk.inj hwrote
    refine ⟨1, le_refl 1, ?_, fun _ => rfl⟩
    rw [hafter, hwritten, Action.outcome_replace_calls, replacements_append, replacements_append,
      replacements_of_ne hmade]
    rfl

/-- Handing the first of the older documents to an upgrade, one by one, deals with documents at
the front, however far it comes; and if it comes to the end all of them are written. -/
theorem upgradeEach_advances {target : Int64} (rewrite : Rewrite target) {upgrade : Upgrade}
    (hupgrade : upgrade.WritesBack rewrite.image) (done : ℕ) {documents : List Document}
    (handle : Handle) (hids : PlainIds handle.documents)
    (hsnapshot : documents <+: handle.documents.filter (isOlder target)) :
    ∃ left, ((upgradeEach upgrade done documents).outcome handle).2.content =
        handle.content.map (Collection.withDocuments left) ∧
      rewrite.Advances handle.documents left
        (HandOver.written (handOvers upgrade documents handle)) ∧
      (∀ handOver ∈ handOvers upgrade documents handle, handOver.Faithful rewrite.image) ∧
      ∀ count, ((upgradeEach upgrade done documents).outcome handle).1 = .ok count →
        count = done + documents.length ∧
          HandOver.written (handOvers upgrade documents handle) = documents := by
  induction documents generalizing done handle with
  | nil =>
    refine ⟨handle.documents, handle.content_withDocuments.symm, Rewrite.Advances.refl _,
      by simp [handOvers], ?_⟩
    intro count hcount
    obtain rfl := Except.ok.inj hcount
    exact ⟨rfl, rfl⟩
  | cons document rest ih =>
    -- The document to hand over is the first older one of the collection.
    obtain ⟨tail, htail⟩ := hsnapshot
    obtain ⟨before, behind, hdocuments, hbefore, holder, hbehind⟩ :=
      List.filter_eq_cons_iff.1 htail.symm
    have hnotOlder : ∀ other ∈ before, isOlder target other = false := fun other hother => by
      simpa using hbefore other hother
    have hsingle : rewrite.Advances handle.documents
        (before ++ rewrite.image document :: behind) [document] := by
      rw [hdocuments]
      exact Rewrite.Advances.single hnotOlder holder
    have hsome : handle.content ≠ none := by
      intro hnone
      simp [Handle.documents, hnone] at hdocuments
    unfold upgradeEach
    rcases hupgrade.outcome rewrite.keeps_id hdocuments hids with
      ⟨error, after, houtcome, hcontent⟩ | ⟨after, houtcome, hcontent⟩
    · rw [Action.outcome_bind_error houtcome, handOvers_cons_error houtcome]
      refine ⟨handle.documents, hcontent.trans handle.content_withDocuments.symm,
        Rewrite.Advances.refl _, ?_, ?_⟩
      · intro handOver hhandOver
        obtain rfl := List.mem_singleton.1 hhandOver
        show after.documents = handle.documents
        rw [Handle.documents, hcontent, Handle.documents]
      · intro count hcount
        simp at hcount
    · rw [Action.outcome_bind_ok houtcome, handOvers_cons_ok houtcome]
      have hafter : after.documents = before ++ rewrite.image document :: behind :=
        Handle.documents_of_content hcontent fun hnone => absurd hnone hsome
      have hafterIds : PlainIds after.documents := by
        rw [hafter]
        exact hids.of_map_id_eq hsingle.map_id_eq
      have hafterSnapshot : rest <+: after.documents.filter (isOlder target) := by
        refine ⟨tail, ?_⟩
        rw [hafter, List.filter_append, Rewrite.filter_of_not_older hnotOlder, List.nil_append,
          List.filter_cons_of_neg (by simp [rewrite.isOlder_image])]
        exact hbehind.symm
      obtain ⟨left, hleft, hadvances, hfaithful, hcount⟩ :=
        ih (done + 1) after hafterIds hafterSnapshot
      refine ⟨left, ?_, ?_, ?_, ?_⟩
      · rw [hleft, hcontent]
        cases handle.content <;> rfl
      · rw [hafter] at hadvances
        exact hsingle.trans hadvances
      · intro handOver hhandOver
        rcases List.mem_cons.1 hhandOver with rfl | hrest
        · exact ⟨before, behind, hdocuments, hafter⟩
        · exact hfaithful handOver hrest
      · intro count hresult
        obtain ⟨hnumber, hwritten⟩ := hcount count hresult
        refine ⟨by rw [hnumber, List.length_cons]; omega, ?_⟩
        show document :: HandOver.written (handOvers upgrade rest after) = document :: rest
        rw [hwritten]

end VersionedStore
