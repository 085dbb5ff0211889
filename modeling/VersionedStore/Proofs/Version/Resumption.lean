import VersionedStore.Proofs.Version.WriteBack

/-!
# Activation goes on where it stopped

An activation may fail at any call: at the guard, at the search, at any document the cursor
returns, and at any upgrade.  Trying again finishes the work, and no document is written twice.

* `Progress`: documents at the front of the collection have been dealt with.
* `VersionedCollection.activateOn_progress`: an activation makes progress, wherever it stops.
* `Attempt.runAll_advances`: so does a sequence of attempts.
* `Attempt.Traced`, `Attempt.runAll_traced`: a sequence of attempts is nothing but its hand-overs,
  and calls that read before them.
* `Attempt.Traced.replacements_eq`: how many replacements it makes.
* `Attempt.activation_resumes`: when an attempt succeeds, the attempts together have written
  every older document once.
-/

set_option autoImplicit false

namespace VersionedStore

/-- What a computation on a handle has to do with the documents it hands to an upgrade: it deals
with documents at the front, every hand-over is faithful, and a count that it returns is that of
the documents written, none of which is left. -/
structure Progress {target : Int64} (rewrite : Rewrite target) (before : Handle)
    (handedOver : List HandOver) (result : Result ℕ) (after : Handle) : Prop where
  advances : ∃ left, after.content = before.content.map (Collection.withDocuments left) ∧
    rewrite.Advances before.documents left (HandOver.written handedOver) ∧
    ∀ count, result = .ok count →
      left.filter (isOlder target) = [] ∧ count = (HandOver.written handedOver).length
  faithful : ∀ handOver ∈ handedOver, handOver.Faithful rewrite.image

/-- A computation that hands nothing over and fails makes no progress, and no harm. -/
theorem Progress.of_error {target : Int64} {rewrite : Rewrite target} {before after : Handle}
    {error : Error} (h : after.content = before.content) :
    Progress rewrite before [] (.error error) after := by
  exact ⟨⟨before.documents, h.trans before.content_withDocuments.symm, Rewrite.Advances.refl _,
    by simp⟩, by simp⟩

/-- The search for older documents changes nothing but the log; its cursor returns the first of
them, and all of them unless it breaks off. -/
theorem outcome_find_lower (target : Int64) (handle : Handle) :
    ∃ result, (Action.find (lowerVersions target) {}).outcome handle =
        (result, handle.logged .find) ∧
      ∀ cursor, result = .ok cursor →
        cursor.documents <+: handle.documents.filter (isOlder target) ∧
          (cursor.fault = none → cursor.documents = handle.documents.filter (isOlder target)) := by
  obtain ⟨result, hfind, hcursor⟩ :=
    Action.outcome_find_default (lowerVersions target) handle
  refine ⟨result, hfind, fun cursor hresult => ?_⟩
  obtain ⟨found, hmatching, hread⟩ := hcursor cursor hresult
  rw [Collection.matching_of_total fun document _ =>
    accepts_lowerVersions target document] at hmatching
  obtain rfl := Except.ok.inj hmatching
  exact hread

/-- A count of the older documents means that all of them have been handed to the upgrade. -/
theorem upgradeLower_eq_ok {target : Int64} {upgrade : Upgrade} {handle after : Handle} {count : ℕ}
    (h : (upgradeLower target upgrade).outcome handle = (.ok count, after)) :
    (upgradeEach upgrade 0 (handle.documents.filter (isOlder target))).outcome
      (handle.logged .find) = (.ok count, after) := by
  obtain ⟨result, hfind, hcursor⟩ := outcome_find_lower target handle
  rw [outcome_upgradeLower, hfind] at h
  cases result with
  | error error => simp at h
  | ok cursor =>
    rcases heach : (upgradeEach upgrade 0 cursor.documents).outcome (handle.logged .find) with
      ⟨counted, left⟩
    simp only [heach] at h
    cases counted with
    | error error => simp at h
    | ok done =>
      cases hfault : cursor.fault with
      | some error => simp [hfault] at h
      | none =>
        rw [← (hcursor cursor rfl).2 hfault, heach]
        simpa only [hfault] using h

/-- Handing the older documents to an upgrade makes progress. -/
theorem upgradeLower_progress {target : Int64} (rewrite : Rewrite target) {upgrade : Upgrade}
    (hupgrade : upgrade.WritesBack rewrite.image) (handle : Handle)
    (hids : PlainIds handle.documents) :
    Progress rewrite handle (lowerHandOvers target upgrade handle)
      ((upgradeLower target upgrade).outcome handle).1
      ((upgradeLower target upgrade).outcome handle).2 := by
  obtain ⟨result, hfind, hcursor⟩ := outcome_find_lower target handle
  rw [outcome_upgradeLower]
  unfold lowerHandOvers
  rw [hfind]
  cases result with
  | error error => exact Progress.of_error rfl
  | ok cursor =>
    obtain ⟨hread, hall⟩ := hcursor cursor rfl
    obtain ⟨left, hleft, hadvances, hfaithful, hcount⟩ :=
      upgradeEach_advances rewrite hupgrade 0 (handle.logged .find) hids hread
    rcases houtcome : (upgradeEach upgrade 0 cursor.documents).outcome (handle.logged .find) with
      ⟨result, after⟩
    rw [houtcome] at hleft hcount
    simp only [houtcome]
    cases result with
    | error error => exact ⟨⟨left, hleft, hadvances, by simp⟩, hfaithful⟩
    | ok done =>
      obtain ⟨hnumber, hwritten⟩ := hcount done rfl
      cases hfault : cursor.fault with
      | some error => exact ⟨⟨left, hleft, hadvances, by simp⟩, hfaithful⟩
      | none =>
        refine ⟨⟨left, hleft, hadvances, ?_⟩, hfaithful⟩
        intro count hresult
        obtain rfl := Except.ok.inj hresult
        refine ⟨?_, by rw [hwritten, hnumber, Nat.zero_add]⟩
        -- What was written is all there was to write.
        have hbalance := hadvances.written_append_left
        rw [hwritten, hall hfault] at hbalance
        exact List.append_right_eq_self.1 hbalance

namespace VersionedCollection

/-- An activation makes progress. -/
theorem activateOn_progress {target : Int64} (rewrite : Rewrite target)
    {versioned : VersionedCollection} (htarget : versioned.target = target)
    (hupgrade : versioned.upgrade.WritesBack rewrite.image) (handle : Handle)
    (hids : PlainIds handle.documents) :
    Progress rewrite handle (versioned.handOvers handle)
      (versioned.activateOn.run handle).1.1 (versioned.activateOn.run handle).2 := by
  subst htarget
  obtain ⟨result, hguard⟩ := outcome_hasHigherVersion versioned.target handle
  rw [activateOn_run, hguard]
  unfold handOvers
  rw [hguard]
  cases result with
  | error error => exact Progress.of_error rfl
  | ok newer =>
    cases newer with
    | true => exact Progress.of_error rfl
    | false =>
      have hlower := upgradeLower_progress rewrite hupgrade (handle.logged .count) hids
      show Progress rewrite handle
        (lowerHandOvers versioned.target versioned.upgrade (handle.logged .count)) _ _
      rcases houtcome : (upgradeLower versioned.target versioned.upgrade).outcome
        (handle.logged .count) with ⟨result, after⟩
      rw [houtcome] at hlower
      simp only [houtcome]
      cases result with
      | error error =>
        obtain ⟨left, hleft, hadvances, -⟩ := hlower.advances
        exact ⟨⟨left, hleft, hadvances, by simp⟩, hlower.faithful⟩
      | ok done => exact ⟨hlower.advances, hlower.faithful⟩

end VersionedCollection

/-- An attempt at activating a collection: what is activated, and the plan of faults in force. -/
structure Attempt where
  versioned : VersionedCollection
  faults : Faults

namespace Attempt

/-- The result of an attempt, and the session after it. -/
def run (attempt : Attempt) (session : Session) (name : String) : Result ℕ × Session :=
  let (result, _, after) :=
    attempt.versioned.activate { session with faults := attempt.faults } name
  (result, after)

/-- The documents that an attempt hands to the upgrade. -/
def handOvers (attempt : Attempt) (session : Session) (name : String) : List HandOver :=
  attempt.versioned.handOvers (Session.handle { session with faults := attempt.faults } name)

/-- The session after a sequence of attempts. -/
def runAll (name : String) : Session → List Attempt → Session
  | session, [] => session
  | session, attempt :: rest => runAll name (attempt.run session name).2 rest

/-- The documents that a sequence of attempts hands to the upgrades, in order. -/
def allHandOvers (name : String) : Session → List Attempt → List HandOver
  | _, [] => []
  | session, attempt :: rest =>
    attempt.handOvers session name ++ allHandOvers name (attempt.run session name).2 rest

/-- Attempts go on from the session that others have left. -/
theorem runAll_append (name : String) (session : Session) (attempts attempts' : List Attempt) :
    runAll name session (attempts ++ attempts') =
      runAll name (runAll name session attempts) attempts' := by
  induction attempts generalizing session with
  | nil => rfl
  | cons attempt rest ih => exact ih _

/-- What an attempt hands over behind others follows what those hand over. -/
theorem allHandOvers_append (name : String) (session : Session) (attempts : List Attempt)
    (last : Attempt) :
    allHandOvers name session (attempts ++ [last]) =
      allHandOvers name session attempts ++
        last.handOvers (runAll name session attempts) name := by
  induction attempts generalizing session with
  | nil => exact List.append_nil _
  | cons attempt rest ih =>
    show attempt.handOvers session name ++ allHandOvers name _ (rest ++ [last]) =
      attempt.handOvers session name ++ allHandOvers name _ rest ++ _
    rw [ih, List.append_assoc]
    rfl

/-- After an attempt the session has adopted the handle that the activation left. -/
theorem run_store (attempt : Attempt) (session : Session) (name : String) :
    (attempt.run session name).2.store =
      (Session.adopt { session with faults := attempt.faults } name
        (attempt.versioned.activateOn.run
          (Session.handle { session with faults := attempt.faults } name)).2).store := rfl

/-- The upgrade of an attempt takes older documents to their images at a version. -/
def Suits {target : Int64} (rewrite : Rewrite target) (attempt : Attempt) : Prop :=
  attempt.versioned.target = target ∧ attempt.versioned.upgrade.WritesBack rewrite.image

/-- One attempt deals with documents at the front of the collection; if it succeeds none is left
and it counts what it has written. -/
theorem run_advances {target : Int64} {rewrite : Rewrite target} {attempt : Attempt}
    (hsuits : attempt.Suits rewrite) (session : Session) (name : String)
    (hids : PlainIds (session.store.documents name)) :
    rewrite.Advances (session.store.documents name)
        ((attempt.run session name).2.store.documents name)
        (HandOver.written (attempt.handOvers session name)) ∧
      (∀ handOver ∈ attempt.handOvers session name, handOver.Faithful rewrite.image) ∧
      ∀ count, (attempt.run session name).1 = .ok count →
        ((attempt.run session name).2.store.documents name).filter (isOlder target) = [] ∧
          count = (HandOver.written (attempt.handOvers session name)).length := by
  obtain ⟨⟨left, hleft, hadvances, hcount⟩, hfaithful⟩ :=
    VersionedCollection.activateOn_progress rewrite hsuits.1 hsuits.2
      (Session.handle { session with faults := attempt.faults } name) hids
  have hdocuments : (attempt.run session name).2.store.documents name = left := by
    rw [run_store]
    generalize (attempt.versioned.activateOn.run
      (Session.handle { session with faults := attempt.faults } name)).2 = after at hleft
    rw [Session.documents_adopt (by rw [hleft, Option.isSome_map]; exact id)]
    refine Handle.documents_of_content hleft fun hnone => ?_
    obtain ⟨done, rest, hempty, rfl, -⟩ := hadvances
    have hnil : [] = done ++ rest := by
      rw [← hempty, Handle.documents, hnone]
      rfl
    obtain ⟨rfl, rfl⟩ := List.append_eq_nil_iff.1 hnil.symm
    rfl
  rw [hdocuments]
  exact ⟨hadvances, hfaithful, hcount⟩

/-- So does a sequence of attempts, whichever of them fail. -/
theorem runAll_advances {target : Int64} {rewrite : Rewrite target} (name : String)
    (session : Session) {attempts : List Attempt}
    (hsuits : ∀ attempt ∈ attempts, attempt.Suits rewrite)
    (hids : PlainIds (session.store.documents name)) :
    rewrite.Advances (session.store.documents name)
        ((runAll name session attempts).store.documents name)
        (HandOver.written (allHandOvers name session attempts)) ∧
      ∀ handOver ∈ allHandOvers name session attempts, handOver.Faithful rewrite.image := by
  induction attempts generalizing session with
  | nil => exact ⟨Rewrite.Advances.refl _, by simp [allHandOvers]⟩
  | cons attempt rest ih =>
    obtain ⟨hfirst, hfaithful, -⟩ :=
      run_advances (hsuits attempt List.mem_cons_self) session name hids
    obtain ⟨hrest, hrestFaithful⟩ := ih (attempt.run session name).2
      (fun other hother => hsuits other (List.mem_cons_of_mem _ hother))
      (hids.of_map_id_eq hfirst.map_id_eq)
    refine ⟨?_, ?_⟩
    · simp only [runAll, allHandOvers, HandOver.written_append]
      exact hfirst.trans hrest
    · intro handOver hhandOver
      rcases List.mem_append.1 hhandOver with hhere | hlater
      · exact hfaithful handOver hhere
      · exact hrestFaithful handOver hlater

/-- One attempt, told by its hand-overs: under its plan of faults it only reads at first, then it
hands documents to its upgrade in a chain, and the session adopts the handle at the end of the
chain.  The result is that of the last hand-over. -/
def RunsThrough (attempt : Attempt) (session : Session) (name : String)
    (handedOver : List HandOver) (result : Result Unit) (after : Session) : Prop :=
  ∃ reads left, (∀ call ∈ reads, call.operation.isRead = true) ∧
    HandOver.Chain attempt.versioned.upgrade
      { Session.handle { session with faults := attempt.faults } name with
        calls := session.calls ++ reads } handedOver result left ∧
    after = Session.adopt { session with faults := attempt.faults } name left

/-- A sequence of attempts, told by its hand-overs: each attempt goes on from the session that the
one before left. -/
inductive Traced (name : String) : Session → List Attempt → List HandOver → Session → Prop
  | nil (session : Session) : Traced name session [] [] session
  | cons {session middle after : Session} {attempt : Attempt} {rest : List Attempt}
    {here later : List HandOver} {result : Result Unit}
    (hrun : attempt.RunsThrough session name here result middle)
    (hlater : Traced name middle rest later after) :
    Traced name session (attempt :: rest) (here ++ later) after

/-- An attempt runs through its hand-overs, and succeeds only if none of them fails. -/
theorem run_runsThrough (attempt : Attempt) (session : Session) (name : String) :
    ∃ result, attempt.RunsThrough session name (attempt.handOvers session name) result
        (attempt.run session name).2 ∧
      ∀ count, (attempt.run session name).1 = .ok count → result = .ok () := by
  obtain ⟨reads, result, hreads, hchain, hok⟩ := attempt.versioned.activateOn_chain
    (Session.handle { session with faults := attempt.faults } name)
  exact ⟨result, ⟨reads, _, hreads, hchain, rfl⟩, hok⟩

/-- A sequence of attempts leaves the session that is at the end of its hand-overs. -/
theorem runAll_traced (name : String) (session : Session) (attempts : List Attempt) :
    Traced name session attempts (allHandOvers name session attempts)
      (runAll name session attempts) := by
  induction attempts generalizing session with
  | nil => exact .nil session
  | cons attempt rest ih =>
    obtain ⟨result, hrun, -⟩ := attempt.run_runsThrough session name
    exact .cons hrun (ih _)

/-- Every hand-over of an attempt makes one replacement, or fails before it has made one. -/
theorem RunsThrough.writesOnce {attempt : Attempt} {session after : Session} {name : String}
    {handedOver : List HandOver} {result : Result Unit} {image : Document → Document}
    (h : attempt.RunsThrough session name handedOver result after)
    (hupgrade : attempt.versioned.upgrade.WritesBack image) :
    ∀ handOver ∈ handedOver, handOver.WritesOnce := by
  obtain ⟨reads, left, -, hchain, -⟩ := h
  exact fun handOver hmem => hupgrade.writesOnce (hchain.outcome_eq hmem)

/-- An attempt makes one replacement for each document that it writes, and one more at most if a
hand-over fails. -/
theorem RunsThrough.replacements_eq {attempt : Attempt} {session after : Session} {name : String}
    {handedOver : List HandOver} {result : Result Unit}
    (h : attempt.RunsThrough session name handedOver result after)
    (honce : ∀ handOver ∈ handedOver, handOver.WritesOnce) :
    ∃ refused ≤ 1, replacements after.calls =
        replacements session.calls + (HandOver.written handedOver).length + refused ∧
      (result = .ok () → refused = 0) := by
  obtain ⟨reads, left, hreads, hchain, rfl⟩ := h
  obtain ⟨refused, hrefused, hcalls, hok⟩ := hchain.replacements_eq honce
  have hnone : replacements reads = 0 := replacements_of_ne fun call hcall hreplace => by
    have hread := hreads call hcall
    rw [hreplace] at hread
    exact Bool.false_ne_true hread
  refine ⟨refused, hrefused, ?_, hok⟩
  show replacements left.calls = _
  rw [hcalls, replacements_append, hnone, Nat.add_zero]

namespace Traced

variable {name : String} {session after : Session} {attempts : List Attempt}
  {handedOver : List HandOver}

/-- Every hand-over of a sequence of attempts makes one replacement, or fails before it has made
one. -/
theorem writesOnce {image : Document → Document}
    (h : Traced name session attempts handedOver after)
    (hupgrades : ∀ attempt ∈ attempts, attempt.versioned.upgrade.WritesBack image) :
    ∀ handOver ∈ handedOver, handOver.WritesOnce := by
  induction h with
  | nil => simp
  | cons hrun _ ih =>
    rw [List.forall_mem_cons] at hupgrades
    rw [List.forall_mem_append]
    exact ⟨hrun.writesOnce hupgrades.1, ih hupgrades.2⟩

/-- A sequence of attempts makes one replacement for each document that it writes, and one more at
most for each attempt. -/
theorem replacements_eq (h : Traced name session attempts handedOver after)
    (honce : ∀ handOver ∈ handedOver, handOver.WritesOnce) :
    ∃ refused ≤ attempts.length, replacements after.calls =
      replacements session.calls + (HandOver.written handedOver).length + refused := by
  induction h with
  | nil session => exact ⟨0, le_refl 0, rfl⟩
  | cons hrun _ ih =>
    rw [List.forall_mem_append] at honce
    obtain ⟨refused, hrefused, hcalls, -⟩ := hrun.replacements_eq honce.1
    obtain ⟨others, hothers, hlater⟩ := ih honce.2
    refine ⟨refused + others, ?_, ?_⟩
    · rw [List.length_cons]
      omega
    · rw [hlater, hcalls, HandOver.written_append, List.length_append]
      omega

end Traced

/-- The plain identities of a reachable store tell the documents of a collection apart. -/
theorem plainIds_of_reachable {store : Store} (hstore : store.Reachable) (name : String)
    (hplain : ∀ document ∈ store.documents name, ∀ id,
      Document.get? document idField = some id → id.isPlainId = true) :
    PlainIds (store.documents name) := by
  unfold Store.documents at hplain ⊢
  cases hcollection : store.collections.get? name with
  | none => exact ⟨by simp, List.Pairwise.nil⟩
  | some collection =>
    simp only [hcollection, Option.map_some, Option.getD_some] at hplain ⊢
    have hconsistent := hstore.consistent hcollection
    refine ⟨?_, hconsistent.ids_differ⟩
    intro document hdocument
    obtain ⟨id, hid⟩ := Option.isSome_iff_exists.1 (hconsistent.identified document hdocument)
    exact ⟨id, hid, hplain document hdocument id hid⟩

/-- Take a reachable store with a collection of plain identities, and attempts to bring it to a
version, the last of which succeeds.  Wherever the earlier ones stopped, every document that was
older at the start has been replaced in its place by its image and all others are as they were;
the documents written over all attempts are the older ones, each of them once.

The attempts are nothing but their hand-overs and the calls that read before them.  Every hand-over
that succeeded replaced its document in its place by a single replacement, and every other one
changed nothing.  So over all attempts the log has one replacement for each older document, and
besides only those that were refused, of which each earlier attempt made one at most.  The last
attempt counts the documents that it wrote, which are those left to it, and made one replacement for
each. -/
theorem activation_resumes {session : Session} (hstore : session.store.Reachable)
    {name : String} (hplain : ∀ document ∈ session.store.documents name, ∀ id,
      Document.get? document idField = some id → id.isPlainId = true)
    {target : Int64} (rewrite : Rewrite target) (earlier : List Attempt) (last : Attempt)
    (hsuits : ∀ attempt ∈ earlier ++ [last], attempt.Suits rewrite) {count : ℕ}
    (hlast : (last.run (runAll name session earlier) name).1 = .ok count) :
    (runAll name session (earlier ++ [last])).store.documents name =
        (session.store.documents name).map rewrite.apply ∧
      (HandOver.written (allHandOvers name session (earlier ++ [last])) =
          (session.store.documents name).filter (isOlder target) ∧
        (HandOver.written (allHandOvers name session (earlier ++ [last]))).Pairwise
          fun a b => sameId a b = false) ∧
      Traced name session (earlier ++ [last]) (allHandOvers name session (earlier ++ [last]))
        (runAll name session (earlier ++ [last])) ∧
      (∀ handOver ∈ allHandOvers name session (earlier ++ [last]),
        handOver.Faithful rewrite.image ∧ handOver.WritesOnce) ∧
      (∃ refused ≤ earlier.length,
        replacements (runAll name session (earlier ++ [last])).calls =
          replacements session.calls +
            (session.store.documents name).countP (isOlder target) + refused) ∧
      count = (HandOver.written (last.handOvers (runAll name session earlier) name)).length ∧
      count = ((runAll name session earlier).store.documents name).countP (isOlder target) ∧
      replacements (runAll name session (earlier ++ [last])).calls =
        replacements (runAll name session earlier).calls + count := by
  have hids := plainIds_of_reachable hstore name hplain
  have hearlierSuits : ∀ attempt ∈ earlier, attempt.Suits rewrite :=
    fun attempt hattempt => hsuits attempt (List.mem_append_left _ hattempt)
  have hlastSuits : last.Suits rewrite := hsuits last (by simp)
  obtain ⟨hearlier, -⟩ := runAll_advances name session hearlierSuits hids
  obtain ⟨hall, hfaithful⟩ := runAll_advances name session hsuits hids
  obtain ⟨hrun, -, hcount⟩ := run_advances hlastSuits (runAll name session earlier) name
    (hids.of_map_id_eq hearlier.map_id_eq)
  obtain ⟨hnoneLeft, hnumber⟩ := hcount count hlast
  have hfinal : runAll name session (earlier ++ [last]) =
      (last.run (runAll name session earlier) name).2 := by
    rw [runAll_append]
    rfl
  have hdone : ((runAll name session (earlier ++ [last])).store.documents name).filter
      (isOlder target) = [] := by
    rw [hfinal]
    exact hnoneLeft
  obtain ⟨hdocuments, hwritten⟩ := hall.eq_of_done hdone
  have hleft : count = ((runAll name session earlier).store.documents name).countP
      (isOlder target) := by
    rw [hnumber, (hrun.eq_of_done hnoneLeft).2, List.countP_eq_length_filter]
  -- The log of the earlier attempts, and what the last one adds to it.
  have htraced := runAll_traced name session (earlier ++ [last])
  have honce := htraced.writesOnce fun attempt hattempt => (hsuits attempt hattempt).2
  have hearlierTraced := runAll_traced name session earlier
  obtain ⟨refused, hrefused, hearlierCalls⟩ := hearlierTraced.replacements_eq
    (hearlierTraced.writesOnce fun attempt hattempt => (hearlierSuits attempt hattempt).2)
  obtain ⟨result, hlastRun, hok⟩ := last.run_runsThrough (runAll name session earlier) name
  obtain ⟨more, -, hlastCalls, hnoMore⟩ := hlastRun.replacements_eq
    (hlastRun.writesOnce hlastSuits.2)
  obtain rfl := hnoMore (hok count hlast)
  rw [← hfinal, ← hnumber, Nat.add_zero] at hlastCalls
  have htotal : (HandOver.written (allHandOvers name session earlier)).length + count =
      (session.store.documents name).countP (isOlder target) := by
    rw [hnumber, List.countP_eq_length_filter, ← hwritten, allHandOvers_append,
      HandOver.written_append, List.length_append]
  refine ⟨hdocuments, ⟨hwritten, ?_⟩, htraced,
    fun handOver hmem => ⟨hfaithful handOver hmem, honce handOver hmem⟩,
    ⟨refused, hrefused, ?_⟩, hnumber, hleft, hlastCalls⟩
  · rw [hwritten]
    exact hids.differ.sublist List.filter_sublist
  · rw [hlastCalls, hearlierCalls, ← htotal]
    omega

/-! ### An activation that is broken off -/

/-- Sets the marker of version two. -/
def markTwo : FieldChange :=
  { set := [("meta", .document [("version", .int64 2)])], context := some "marking" }

/-- A collection with a document without a marker, one at version two and one below it. -/
def mixedVersions : List Change :=
  [.insert "articles"
    [[(idField, .int32 1)],
      [(idField, .string "b"), ("meta", .document [("version", .int32 2)])],
      [(idField, .int32 3), ("meta", .document [("version", .int32 1)])]]]

/-- A session on that collection. -/
def mixedSession : Session :=
  mixedVersions.foldl Change.run { store := { database := "db", ids := ⟨⟨0⟩, 0⟩ } }

/-- Two is a version that documents may be brought to. -/
theorem one_le_versionTwo : (1 : Int64) ≤ 2 := by decide

/-- Activation at version two, when the calls at some positions fail. -/
def markingAttempt (failing : List ℕ) : Attempt where
  versioned := { target := 2, upgrade := markTwo.upgrade, one_le_target := one_le_versionTwo }
  faults := .failingAt failing

/-- The statement for an attempt that fails at its second replacement, one that fails at its count
and one that succeeds and writes the one document that is left: two documents are older, and the log
has three replacements, of which one was refused. -/
theorem activation_resumes_after_failures :
    ((markingAttempt [4]).run mixedSession "articles").1 =
        .error (.migration "articles" (.during "marking" (.backend (.other "unreachable")))) ∧
      (runAll "articles" mixedSession
        ([markingAttempt [4], markingAttempt [5]] ++ [markingAttempt []])).store.documents
          "articles" =
        [[(idField, .int32 1), ("meta", .document [("version", .int64 2)])],
          [(idField, .string "b"), ("meta", .document [("version", .int32 2)])],
          [(idField, .int32 3), ("meta", .document [("version", .int64 2)])]] ∧
      1 = ((runAll "articles" mixedSession [markingAttempt [4], markingAttempt [5]]).store.documents
        "articles").countP (isOlder 2) ∧
      (replacements (runAll "articles" mixedSession
          ([markingAttempt [4], markingAttempt [5]] ++ [markingAttempt []])).calls = 3 ∧
        replacements (runAll "articles" mixedSession
            ([markingAttempt [4], markingAttempt [5]] ++ [markingAttempt []])).calls =
          replacements (runAll "articles" mixedSession
            [markingAttempt [4], markingAttempt [5]]).calls + 1) := by
  have hstore : mixedSession.store.Reachable :=
    Store.Reachable.foldl_run mixedVersions (.fresh "db" ⟨⟨0⟩, 0⟩)
  have hdocuments : mixedSession.store.documents "articles" =
      [[(idField, .int32 1)],
        [(idField, .string "b"), ("meta", .document [("version", .int32 2)])],
        [(idField, .int32 3), ("meta", .document [("version", .int32 1)])]] := by rfl
  have hplain : ∀ document ∈ mixedSession.store.documents "articles", ∀ id,
      Document.get? document idField = some id → id.isPlainId = true := by
    intro document hdocument id hid
    rw [hdocuments] at hdocument
    simp only [List.mem_cons, List.not_mem_nil, or_false] at hdocument
    rcases hdocument with rfl | rfl | rfl <;> cases hid <;> rfl
  have hsuits : ∀ attempt ∈ [markingAttempt [4], markingAttempt [5]] ++ [markingAttempt []],
      attempt.Suits (Rewrite.marking 2) := by
    intro attempt hattempt
    simp only [List.cons_append, List.nil_append, List.mem_cons, List.not_mem_nil,
      or_false] at hattempt
    rcases hattempt with rfl | rfl | rfl <;> exact ⟨rfl, markTwo.writesBack⟩
  obtain ⟨hfinal, -, -, -, -, -, hcount, hcalls⟩ := activation_resumes hstore hplain
    (Rewrite.marking 2) [markingAttempt [4], markingAttempt [5]] (markingAttempt []) hsuits
    (by rfl)
  refine ⟨by rfl, ?_, hcount, by rfl, hcalls⟩
  rw [hfinal, hdocuments]
  rfl

end Attempt

end VersionedStore
