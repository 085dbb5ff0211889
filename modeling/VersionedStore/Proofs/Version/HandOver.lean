import VersionedStore.Proofs.Collection.Search
import VersionedStore.Proofs.Session.Effects
import VersionedStore.Version.Activation

/-!
# Handing documents to an upgrade

An activation reads, and then hands documents to its upgrade one by one until one fails.  Here its
run is taken apart into these hand-overs, each with the handle before it and the one that it left,
whatever the upgrade does.

* `Action.outcome_count`, `Action.outcome_find_default`: reading changes nothing but the log.
* `handOvers`, `lowerHandOvers`, `VersionedCollection.handOvers`: the hand-overs of the loop over
  documents, of the search with the loop, and of a whole activation.
* `HandOver.Chain`: hand-overs of which each begins on the handle that the one before left.
* `outcome_upgradeLower`, `VersionedCollection.activateOn_run`: the steps of both, and what they do
  when one fails.
* `upgradeEach_chain`, `upgradeLower_chain`, `VersionedCollection.activateOn_chain`: a run is the
  chain of its hand-overs and does nothing else but read.
* `HandOver.Chain.replacements_eq`: how many replacements the calls of a chain are.
-/

set_option autoImplicit false

namespace VersionedStore

namespace Action

/-- Counting changes nothing but the log. -/
theorem outcome_count (filter : Document) (handle : Handle) :
    ∃ result, (Action.count filter).outcome handle = (result, handle.logged .count) := by
  unfold Action.count
  rw [outcome_perform]
  split
  · exact ⟨_, rfl⟩
  · cases hcontent : handle.content with
    | none => exact ⟨.ok 0, by simp only [Handle.logged_content, hcontent]⟩
    | some collection =>
      exact ⟨collection.count filter, by simp only [Handle.logged_content, hcontent]⟩

/-- A search without options changes nothing but the log; its cursor returns the first of the
documents that match, and all of them unless it breaks off. -/
theorem outcome_find_default (filter : Document) (handle : Handle) :
    ∃ result, (Action.find filter {}).outcome handle = (result, handle.logged .find) ∧
      ∀ cursor, result = .ok cursor →
        ∃ found, Collection.matching filter handle.documents = .ok found ∧
          cursor.documents <+: found ∧ (cursor.fault = none → cursor.documents = found) := by
  unfold Action.find
  rw [outcome_perform]
  split
  · exact ⟨_, rfl, by simp⟩
  · refine ⟨_, rfl, fun cursor hcursor => ?_⟩
    obtain ⟨found, hfound, rfl⟩ := Result.map_eq_ok hcursor
    refine ⟨found, ?_, ?_⟩
    · unfold Handle.documents
      cases hcontent : handle.content with
      | none =>
        simp only [Handle.logged_content, hcontent] at hfound
        exact hfound
      | some collection =>
        simp only [Handle.logged_content, hcontent, Collection.find_default] at hfound
        exact hfound
    · split
      · exact ⟨List.take_prefix _ found, by simp [Cursor.breakAfter]⟩
      · exact ⟨List.prefix_rfl, fun _ => rfl⟩

end Action

/-- The search for newer documents changes nothing but the log. -/
theorem outcome_hasHigherVersion (target : Int64) (handle : Handle) :
    ∃ result, (hasHigherVersion target).outcome handle = (result, handle.logged .count) := by
  unfold hasHigherVersion
  obtain ⟨result, hresult⟩ := Action.outcome_count (higherVersions target) handle
  rw [Action.outcome_bind, hresult]
  cases result with
  | error error => exact ⟨_, rfl⟩
  | ok newer => exact ⟨_, rfl⟩

/-- A document that was handed to an upgrade, with what became of it. -/
structure HandOver where
  document : Document
  before : Handle
  result : Result Unit
  after : Handle

namespace HandOver

/-- Whether the upgrade wrote. -/
def succeeded (handOver : HandOver) : Bool :=
  match handOver.result with
  | .ok _ => true
  | .error _ => false

/-- The documents of those hand-overs that succeeded. -/
def written (handOvers : List HandOver) : List Document :=
  (handOvers.filter succeeded).map document

/-- The documents written in two stretches are those of the first and then those of the second. -/
theorem written_append (a b : List HandOver) : written (a ++ b) = written a ++ written b := by
  simp [written]

end HandOver

/-- The documents that are handed to an upgrade until one fails, with what becomes of each. -/
def handOvers (upgrade : Upgrade) : List Document → Handle → List HandOver
  | [], _ => []
  | document :: rest, handle =>
    let (result, after) := (upgrade document).outcome handle
    ⟨document, handle, result, after⟩ ::
      match result with
      | .ok _ => handOvers upgrade rest after
      | .error _ => []

/-- After a hand-over that succeeded, the next document is handed over on the handle that was
left. -/
theorem handOvers_cons_ok {upgrade : Upgrade} {document : Document} {handle after : Handle}
    (h : (upgrade document).outcome handle = (.ok (), after)) (rest : List Document) :
    handOvers upgrade (document :: rest) handle =
      ⟨document, handle, .ok (), after⟩ :: handOvers upgrade rest after := by
  simp only [handOvers, h]

/-- A hand-over that failed is the last. -/
theorem handOvers_cons_error {upgrade : Upgrade} {document : Document} {handle after : Handle}
    {error : Error} (h : (upgrade document).outcome handle = (.error error, after))
    (rest : List Document) :
    handOvers upgrade (document :: rest) handle = [⟨document, handle, .error error, after⟩] := by
  simp only [handOvers, h]

/-- The documents that one attempt at bringing a collection up to date hands to the upgrade. -/
def lowerHandOvers (target : Int64) (upgrade : Upgrade) (handle : Handle) : List HandOver :=
  match (Action.find (lowerVersions target) {}).outcome handle with
  | (.ok cursor, handle) => handOvers upgrade cursor.documents handle
  | (.error _, _) => []

/-- The documents that an activation hands to the upgrade, once no newer ones have been seen. -/
def VersionedCollection.handOvers (versioned : VersionedCollection) (handle : Handle) :
    List HandOver :=
  match (hasHigherVersion versioned.target).outcome handle with
  | (.ok false, handle) => lowerHandOvers versioned.target versioned.upgrade handle
  | _ => []

/-- The number of replacements in a log of calls. -/
def replacements (calls : List Call) : ℕ :=
  calls.countP fun call => decide (call.operation = .replace)

/-- The replacements in a log that goes on are those so far and those that follow. -/
theorem replacements_append (calls made : List Call) :
    replacements (calls ++ made) = replacements calls + replacements made :=
  List.countP_append

/-- Among other calls there are no replacements. -/
theorem replacements_of_ne {calls : List Call} (h : ∀ call ∈ calls, call.operation ≠ .replace) :
    replacements calls = 0 :=
  List.countP_eq_zero.2 fun call hcall => by simpa using h call hcall

namespace HandOver

/-- A hand-over makes one replacement if it succeeds, and at most one if it fails. -/
def WritesOnce (handOver : HandOver) : Prop :=
  ∃ made ≤ 1, replacements handOver.after.calls = replacements handOver.before.calls + made ∧
    (handOver.succeeded = true → made = 1)

/-- Hand-overs one after the other.  Each hands its document to the upgrade on the handle that the
one before left, and is the last if it fails; the result is that of the last, and the handle at the
end the one that it left. -/
inductive Chain (upgrade : Upgrade) : Handle → List HandOver → Result Unit → Handle → Prop
  | nil (handle : Handle) : Chain upgrade handle [] (.ok ()) handle
  | failed {document : Document} {before after : Handle} {error : Error}
    (h : (upgrade document).outcome before = (.error error, after)) :
    Chain upgrade before [⟨document, before, .error error, after⟩] (.error error) after
  | next {document : Document} {before middle after : Handle} {later : List HandOver}
    {result : Result Unit} (h : (upgrade document).outcome before = (.ok (), middle))
    (hlater : Chain upgrade middle later result after) :
    Chain upgrade before (⟨document, before, .ok (), middle⟩ :: later) result after

namespace Chain

variable {upgrade : Upgrade} {before after : Handle} {handedOver : List HandOver}
  {result : Result Unit}

/-- What a hand-over of a chain comes to is what the upgrade does with its document. -/
theorem outcome_eq (h : Chain upgrade before handedOver result after) {handOver : HandOver}
    (hmem : handOver ∈ handedOver) :
    (upgrade handOver.document).outcome handOver.before = (handOver.result, handOver.after) := by
  induction h with
  | nil => simp at hmem
  | failed houtcome =>
    obtain rfl := List.mem_singleton.1 hmem
    exact houtcome
  | next houtcome _ ih =>
    rcases List.mem_cons.1 hmem with rfl | hlater
    · exact houtcome
    · exact ih hlater

/-- The replacements of a chain are one for each document written, and one more at most if it breaks
off. -/
theorem replacements_eq (h : Chain upgrade before handedOver result after)
    (honce : ∀ handOver ∈ handedOver, handOver.WritesOnce) :
    ∃ refused ≤ 1, replacements after.calls =
        replacements before.calls + (written handedOver).length + refused ∧
      (result = .ok () → refused = 0) := by
  induction h with
  | nil handle => exact ⟨0, Nat.zero_le 1, rfl, fun _ => rfl⟩
  | failed _ =>
    obtain ⟨made, hmade, hcalls, -⟩ := honce _ (List.mem_singleton_self _)
    exact ⟨made, hmade, hcalls, by simp⟩
  | @next document before middle after later result _ _ ih =>
    rw [List.forall_mem_cons] at honce
    obtain ⟨made, -, hmade, hwritten⟩ := honce.1
    obtain ⟨refused, hrefused, hlater, hok⟩ := ih honce.2
    obtain rfl := hwritten rfl
    have hfirst : replacements middle.calls = replacements before.calls + 1 := hmade
    refine ⟨refused, hrefused, ?_, hok⟩
    show _ = _ + ((written later).length + 1) + refused
    omega

end Chain

end HandOver

/-- The loop over documents is the chain of its hand-overs, and counts them on if none fails. -/
theorem upgradeEach_chain (upgrade : Upgrade) (done : ℕ) (documents : List Document)
    (handle : Handle) :
    ∃ result, HandOver.Chain upgrade handle (handOvers upgrade documents handle) result
        ((upgradeEach upgrade done documents).outcome handle).2 ∧
      ((upgradeEach upgrade done documents).outcome handle).1 =
        result.map fun _ => done + documents.length := by
  induction documents generalizing done handle with
  | nil => exact ⟨.ok (), .nil handle, rfl⟩
  | cons document rest ih =>
    unfold upgradeEach
    rcases houtcome : (upgrade document).outcome handle with ⟨result, after⟩
    cases result with
    | error error =>
      rw [Action.outcome_bind_error houtcome, handOvers_cons_error houtcome]
      exact ⟨.error error, .failed houtcome, rfl⟩
    | ok _ =>
      rw [Action.outcome_bind_ok houtcome, handOvers_cons_ok houtcome]
      obtain ⟨result, hchain, hresult⟩ := ih (done + 1) after
      refine ⟨result, .next houtcome hchain, ?_⟩
      rw [hresult, List.length_cons, Nat.add_assoc, Nat.add_comm 1]

/-- The upgrade of the older documents searches for them and hands over those that the cursor
returns; a cursor that breaks off fails behind them. -/
theorem outcome_upgradeLower (target : Int64) (upgrade : Upgrade) (handle : Handle) :
    (upgradeLower target upgrade).outcome handle =
      match (Action.find (lowerVersions target) {}).outcome handle with
      | (.error error, after) => (.error (.during "query lower-versioned documents" error), after)
      | (.ok cursor, middle) =>
        match (upgradeEach upgrade 0 cursor.documents).outcome middle with
        | (.error error, after) => (.error error, after)
        | (.ok done, after) =>
          match cursor.fault with
          | none => (.ok done, after)
          | some error => (.error (.during "read lower-versioned document" error), after) := by
  unfold upgradeLower
  rw [Action.outcome_bind, Action.outcome_during]
  rcases (Action.find (lowerVersions target) {}).outcome handle with ⟨opened, middle⟩
  cases opened with
  | error error => rfl
  | ok cursor =>
    show Action.outcome _ middle = _
    rw [Action.outcome_bind]
    rcases heach : (upgradeEach upgrade 0 cursor.documents).outcome middle with ⟨counted, after⟩
    simp only [heach]
    cases counted with
    | error error => rfl
    | ok done => cases cursor.fault <;> rfl

/-- After the search, the upgrade of the older documents is the chain of their hand-overs; it
succeeds only if none of them fails. -/
theorem upgradeLower_chain (target : Int64) (upgrade : Upgrade) (handle : Handle) :
    ∃ result, HandOver.Chain upgrade (handle.logged .find) (lowerHandOvers target upgrade handle)
        result ((upgradeLower target upgrade).outcome handle).2 ∧
      ∀ count, ((upgradeLower target upgrade).outcome handle).1 = .ok count → result = .ok () := by
  obtain ⟨opened, hfind, -⟩ := Action.outcome_find_default (lowerVersions target) handle
  rw [outcome_upgradeLower]
  unfold lowerHandOvers
  rw [hfind]
  cases opened with
  | error error => exact ⟨.ok (), .nil _, fun _ _ => rfl⟩
  | ok cursor =>
    obtain ⟨result, hchain, hresult⟩ :=
      upgradeEach_chain upgrade 0 cursor.documents (handle.logged .find)
    rcases heach : (upgradeEach upgrade 0 cursor.documents).outcome (handle.logged .find) with
      ⟨counted, after⟩
    rw [heach] at hchain hresult
    simp only [heach]
    cases counted with
    | error error => exact ⟨result, hchain, by simp⟩
    | ok done =>
      refine ⟨result, ?_, fun _ _ => ?_⟩
      · -- A cursor that breaks off fails without another call.
        cases cursor.fault <;> exact hchain
      · obtain ⟨_, hok, -⟩ := Result.map_eq_ok hresult.symm
        exact hok

namespace VersionedCollection

/-- A computation on a handle goes on with the value and the handle that another one leaves. -/
private theorem run_bind_eq {α β : Type} (first : StateM Handle α)
    (next : α → StateM Handle β) (handle : Handle) :
    ((first >>= next).run handle : β × Handle) =
      (next (first.run handle : α × Handle).1).run (first.run handle : α × Handle).2 := rfl

/-- An activation counts the newer documents, and goes on to the older ones if there are none. -/
theorem activateOn_run (versioned : VersionedCollection) (handle : Handle) :
    (versioned.activateOn.run handle : (Result ℕ × VersionedCollection) × Handle) =
      match (hasHigherVersion versioned.target).outcome handle with
      | (.error error, handle') =>
        ((.error (.during "check for higher-versioned documents" error),
          { versioned with attached := some handle.name }), handle')
      | (.ok true, handle') =>
        ((.error (.incompatibleVersion handle.name versioned.target),
          { versioned with attached := some handle.name, state := .fatal }), handle')
      | (.ok false, handle') =>
        match (upgradeLower versioned.target versioned.upgrade).outcome handle' with
        | (.error error, handle'') =>
          ((.error (.migration handle.name error),
            { versioned with attached := some handle.name, state := .migrating }), handle'')
        | (.ok done, handle'') =>
          ((.ok done, { versioned with attached := some handle.name, state := .migrated }),
            handle'') := by
  unfold activateOn
  rw [run_bind_eq]
  show StateT.run _ handle = _
  rw [run_bind_eq]
  rcases hguard : (hasHigherVersion versioned.target).outcome handle with ⟨result, handle'⟩
  have hrun : (((hasHigherVersion versioned.target).during
    "check for higher-versioned documents").run.run handle : Result Bool × Handle) =
      (Result.during "check for higher-versioned documents" result, handle') := by
    show Action.outcome _ handle = _
    rw [Action.outcome_during, hguard]
  rw [hrun]
  cases result with
  | error error => rfl
  | ok newer =>
    cases newer with
    | true => rfl
    | false =>
      refine (run_bind_eq (upgradeLower versioned.target versioned.upgrade).run _ handle').trans ?_
      rcases hlower : (upgradeLower versioned.target versioned.upgrade).outcome handle' with
        ⟨result, handle''⟩
      have hrun' : ((upgradeLower versioned.target versioned.upgrade).run.run handle' :
        Result ℕ × Handle) = (result, handle'') := hlower
      rw [hrun']
      simp only [hlower]
      cases result <;> rfl

/-- An activation only reads before it hands documents over, and is the chain of its hand-overs from
there on: the handle that it leaves, calls included, is the one at the end of the chain.  It
succeeds only if no hand-over fails. -/
theorem activateOn_chain (versioned : VersionedCollection) (handle : Handle) :
    ∃ reads result, (∀ call ∈ reads, call.operation.isRead = true) ∧
      HandOver.Chain versioned.upgrade { handle with calls := handle.calls ++ reads }
        (versioned.handOvers handle) result (versioned.activateOn.run handle).2 ∧
      ∀ count, (versioned.activateOn.run handle).1.1 = .ok count → result = .ok () := by
  obtain ⟨guard, hguard⟩ := outcome_hasHigherVersion versioned.target handle
  rw [activateOn_run, hguard]
  unfold handOvers
  rw [hguard]
  -- A guard that fails, or finds a newer document, is the only call.
  have hread : ∀ call ∈ [(⟨handle.name, .count⟩ : Call)], call.operation.isRead = true := by
    simp [Operation.isRead]
  cases guard with
  | error error => exact ⟨_, .ok (), hread, .nil _, fun _ _ => rfl⟩
  | ok newer =>
    cases newer with
    | true => exact ⟨_, .ok (), hread, .nil _, fun _ _ => rfl⟩
    | false =>
      obtain ⟨result, hchain, hok⟩ :=
        upgradeLower_chain versioned.target versioned.upgrade (handle.logged .count)
      obtain ⟨reads, hreads⟩ : ∃ reads : List Call,
          reads = [⟨handle.name, .count⟩, ⟨handle.name, .find⟩] := ⟨_, rfl⟩
      have hstart : (handle.logged .count).logged .find =
          { handle with calls := handle.calls ++ reads } := by
        simp [Handle.logged, hreads]
      rw [hstart] at hchain
      rcases hlower : (upgradeLower versioned.target versioned.upgrade).outcome
        (handle.logged .count) with ⟨counted, after⟩
      rw [hlower] at hchain hok
      simp only [hlower]
      refine ⟨reads, result, by simp [hreads, Operation.isRead], ?_⟩
      cases counted with
      | error error => exact ⟨hchain, by simp⟩
      | ok done => exact ⟨hchain, hok⟩

end VersionedCollection

end VersionedStore
