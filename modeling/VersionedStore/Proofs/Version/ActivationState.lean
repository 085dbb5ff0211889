import VersionedStore.Proofs.Version.Target

/-!
# What the state of a versioned collection tells

A versioned collection may be activated again and again, after successes and after failures, and
between two calls the store may have changed in any way.  Each call first counts the newer documents;
if that guard fails, the call has no say in the state, and otherwise it sets the state anew.

* `Activation`: a call, with the session in which it is made.
* `Activation.Reflects`: the state that goes with a result.
* `Activation.outcome_cases`: what a single call can do.
* `Activation.state_runAll`: the state after calls is that of the last one whose guard completed.
* `Activation.state_tells`: that, what the guard finds, and that calls which stop there only count.
-/

set_option autoImplicit false

namespace VersionedStore

/-- A call that activates a collection, in a session with any store, log and plan of faults. -/
structure Activation where
  session : Session
  collection : String

namespace Activation

/-- What the guard of a call returns: whether there are documents above a version. -/
def guard (target : Int64) (call : Activation) : Result Bool :=
  (call.session.on call.collection (hasHigherVersion target)).1

/-- The result of a call. -/
def result (versioned : VersionedCollection) (call : Activation) : Result ℕ :=
  (versioned.activate call.session call.collection).1

/-- The versioned collection after a call. -/
def after (versioned : VersionedCollection) (call : Activation) : VersionedCollection :=
  (versioned.activate call.session call.collection).2.1

/-- The session after a call. -/
def left (versioned : VersionedCollection) (call : Activation) : Session :=
  (versioned.activate call.session call.collection).2.2

/-- The versioned collection after calls in their order. -/
def runAll (versioned : VersionedCollection) (calls : List Activation) : VersionedCollection :=
  calls.foldl after versioned

/-- Which state goes with a result of a call whose guard completed. -/
inductive Reflects (collection : String) (target : Int64) : Result ℕ → ActivationState → Prop
  | incompatible : Reflects collection target (.error (.incompatibleVersion collection target)) .fatal
  | failed (cause : Error) :
    Reflects collection target (.error (.migration collection cause)) .migrating
  | finished (count : ℕ) : Reflects collection target (.ok count) .migrated

/-- A session in which a collection has been counted, and nothing else been done. -/
def counted (call : Activation) : Session :=
  { call.session with calls := call.session.calls ++ [⟨call.collection, .count⟩] }

variable {versioned : VersionedCollection} {target : Int64} {call : Activation}

/-- The guard of a call depends on the handle of its collection only. -/
theorem guard_eq (target : Int64) (call : Activation) :
    call.guard target =
      ((hasHigherVersion target).outcome (call.session.handle call.collection)).1 := rfl

/-- A guard that completes has found a newer document exactly if the filter matches one. -/
theorem guard_eq_ok {newer : Bool} (h : call.guard target = .ok newer) :
    newer = true ↔ ∃ document ∈ call.session.store.documents call.collection,
      Filter.accepts document (higherVersions target) = .ok true := by
  rw [guard_eq] at h
  rcases houtcome : (hasHigherVersion target).outcome (call.session.handle call.collection) with
    ⟨result, after⟩
  rw [houtcome] at h
  obtain rfl : result = .ok newer := h
  have hdocuments : (call.session.handle call.collection).documents =
      call.session.store.documents call.collection := rfl
  rw [hasHigherVersion_eq_ok houtcome, List.any_eq_true, hdocuments]
  simp only [accepts_higherVersions, Except.ok.injEq]

/-- What a call can do.  If its guard fails, or finds newer documents, it leaves the session with
one more count in its log; and if the guard finds none, the call either fails in the migration or
finishes. -/
theorem outcome_cases (versioned : VersionedCollection) (call : Activation) :
    (after versioned call).target = versioned.target ∧
      ((∃ error, call.guard versioned.target = .error error ∧
          result versioned call =
            .error (.during "check for higher-versioned documents" error) ∧
          (after versioned call).state = versioned.state ∧
          left versioned call = call.counted) ∨
        (call.guard versioned.target = .ok true ∧
          result versioned call =
            .error (.incompatibleVersion call.collection versioned.target) ∧
          (after versioned call).state = .fatal ∧
          left versioned call = call.counted) ∨
        (call.guard versioned.target = .ok false ∧
          ((∃ cause, result versioned call = .error (.migration call.collection cause) ∧
              (after versioned call).state = .migrating) ∨
            ∃ count, result versioned call = .ok count ∧
              (after versioned call).state = .migrated))) := by
  have hactivate : versioned.activate call.session call.collection =
      ((versioned.activateOn.run (call.session.handle call.collection)).1.1,
        (versioned.activateOn.run (call.session.handle call.collection)).1.2,
        call.session.adopt call.collection
          (versioned.activateOn.run (call.session.handle call.collection)).2) := rfl
  have hcounted : call.session.adopt call.collection
      ((call.session.handle call.collection).logged .count) = call.counted :=
    Session.adopt_calls _ _ _
  have hrun := versioned.activateOn_run (call.session.handle call.collection)
  obtain ⟨found, hguard⟩ :=
    outcome_hasHigherVersion versioned.target (call.session.handle call.collection)
  rw [hguard] at hrun
  unfold result after left
  rw [hactivate, guard_eq, hguard]
  cases found with
  | error error =>
    rw [hrun]
    exact ⟨rfl, .inl ⟨error, rfl, rfl, rfl, hcounted⟩⟩
  | ok newer =>
    cases newer with
    | true =>
      rw [hrun]
      exact ⟨rfl, .inr (.inl ⟨rfl, rfl, rfl, hcounted⟩)⟩
    | false =>
      dsimp only at hrun
      rw [hrun]
      rcases (upgradeLower versioned.target versioned.upgrade).outcome
        ((call.session.handle call.collection).logged .count) with ⟨done, handle⟩
      cases done with
      | error cause => exact ⟨rfl, .inr (.inr ⟨rfl, .inl ⟨cause, rfl, rfl⟩⟩)⟩
      | ok count => exact ⟨rfl, .inr (.inr ⟨rfl, .inr ⟨count, rfl, rfl⟩⟩)⟩

/-- A call whose guard fails leaves the state as it was. -/
theorem state_after_of_error {error : Error} (h : call.guard versioned.target = .error error) :
    (after versioned call).state = versioned.state := by
  obtain ⟨-, ⟨_, -, -, hstate, -⟩ | ⟨hguard, -⟩ | ⟨hguard, -⟩⟩ := outcome_cases versioned call
  · exact hstate
  · simp [h] at hguard
  · simp [h] at hguard

/-- A call whose guard completes sets the state that goes with its result. -/
theorem reflects_of_ok {newer : Bool} (h : call.guard versioned.target = .ok newer) :
    Reflects call.collection versioned.target (result versioned call)
      (after versioned call).state := by
  obtain ⟨-, ⟨_, hguard, -⟩ | ⟨-, hresult, hstate, -⟩ | ⟨-, hdone⟩⟩ := outcome_cases versioned call
  · simp [h] at hguard
  · rw [hresult, hstate]
    exact .incompatible
  · rcases hdone with ⟨cause, hresult, hstate⟩ | ⟨count, hresult, hstate⟩
    · rw [hresult, hstate]
      exact .failed cause
    · rw [hresult, hstate]
      exact .finished count

/-- Calls are made one after the other. -/
theorem runAll_append (versioned : VersionedCollection) (earlier later : List Activation) :
    runAll versioned (earlier ++ later) = runAll (runAll versioned earlier) later :=
  List.foldl_append

/-- No call changes the target. -/
theorem target_runAll (versioned : VersionedCollection) (calls : List Activation) :
    (runAll versioned calls).target = versioned.target := by
  induction calls generalizing versioned with
  | nil => rfl
  | cons call rest ih => exact (ih _).trans (outcome_cases versioned call).1

/-- Calls whose guards all fail leave the state as it was. -/
theorem state_runAll_of_errors {calls : List Activation}
    (h : ∀ call ∈ calls, ∃ error, call.guard versioned.target = .error error) :
    (runAll versioned calls).state = versioned.state := by
  induction calls generalizing versioned with
  | nil => rfl
  | cons call rest ih =>
    rw [List.forall_mem_cons] at h
    obtain ⟨⟨error, herror⟩, hrest⟩ := h
    rw [← state_after_of_error herror]
    apply ih
    rw [(outcome_cases versioned call).1]
    exact hrest

/-- The state after calls is the one that goes with the result of the last call whose guard
completed. -/
theorem state_runAll {earlier later : List Activation} {newer : Bool}
    (hcall : call.guard versioned.target = .ok newer)
    (hlater : ∀ other ∈ later, ∃ error, other.guard versioned.target = .error error) :
    Reflects call.collection versioned.target (result (runAll versioned earlier) call)
      (runAll versioned (earlier ++ call :: later)).state := by
  have htarget := target_runAll versioned earlier
  have hreflects : Reflects call.collection versioned.target
      (result (runAll versioned earlier) call) (after (runAll versioned earlier) call).state := by
    rw [← htarget] at hcall ⊢
    exact reflects_of_ok hcall
  have hkept : (runAll (after (runAll versioned earlier) call) later).state =
      (after (runAll versioned earlier) call).state := by
    apply state_runAll_of_errors
    rw [(outcome_cases (runAll versioned earlier) call).1, htarget]
    exact hlater
  rw [runAll_append]
  show Reflects call.collection versioned.target (result (runAll versioned earlier) call)
    (runAll (after (runAll versioned earlier) call) later).state
  rw [hkept]
  exact hreflects

/-- A call whose guard completed leaves the state checked. -/
theorem Reflects.ne_unchecked {collection : String} {target : Int64} {result : Result ℕ}
    {state : ActivationState} (h : Reflects collection target result state) :
    state ≠ .unchecked := by
  cases h <;> simp

/-- Among calls of which the guard of one completed, there is a last such call. -/
theorem exists_last_guarded {calls : List Activation}
    (h : ¬ ∀ call ∈ calls, ∃ error, call.guard target = .error error) :
    ∃ earlier call later newer, calls = earlier ++ call :: later ∧ call.guard target = .ok newer ∧
      ∀ other ∈ later, ∃ error, other.guard target = .error error := by
  induction calls with
  | nil => simp at h
  | cons first rest ih =>
    by_cases hrest : ∀ call ∈ rest, ∃ error, call.guard target = .error error
    · cases hguard : first.guard target with
      | error error => exact absurd (List.forall_mem_cons.2 ⟨⟨error, hguard⟩, hrest⟩) h
      | ok newer => exact ⟨[], first, rest, newer, rfl, hguard, hrest⟩
    · obtain ⟨earlier, call, later, newer, hsplit, hguard, hlater⟩ := ih hrest
      exact ⟨first :: earlier, call, later, newer, by rw [hsplit, List.cons_append], hguard, hlater⟩

/-- Declare a versioned collection and activate it any number of times, with any upgrade, on any
collections, and with any stores and faults.  The state is `unchecked` exactly as long as no guard
has completed; otherwise it goes with the result of the last call whose guard completed.  A guard
that completes tells whether the filter of the newer documents matches one.  And a call that returns
an incompatible version, or fails in its guard, has counted and done nothing else. -/
theorem state_tells {upgrade : Upgrade}
    (hdeclared : VersionedCollection.declare target upgrade = .ok versioned)
    (calls : List Activation) :
    ((runAll versioned calls).state = .unchecked ↔
        ∀ call ∈ calls, ∃ error, call.guard target = .error error) ∧
      ∀ earlier call later, calls = earlier ++ call :: later →
        (∀ newer, call.guard target = .ok newer →
          (∀ other ∈ later, ∃ error, other.guard target = .error error) →
          Reflects call.collection target (result (runAll versioned earlier) call)
            (runAll versioned calls).state) ∧
        (∀ newer, call.guard target = .ok newer →
          (newer = true ↔ ∃ document ∈ call.session.store.documents call.collection,
            Filter.accepts document (higherVersions target) = .ok true)) ∧
        ((∃ error, call.guard target = .error error) ∨
            (∃ collection version, result (runAll versioned earlier) call =
              .error (.incompatibleVersion collection version)) →
          left (runAll versioned earlier) call = call.counted) := by
  obtain ⟨rfl, hunchecked⟩ : versioned.target = target ∧ versioned.state = .unchecked := by
    unfold VersionedCollection.declare at hdeclared
    split at hdeclared
    · obtain rfl := Except.ok.inj hdeclared
      exact ⟨rfl, rfl⟩
    · simp at hdeclared
  refine ⟨⟨?_, ?_⟩, ?_⟩
  · intro hstate
    by_contra hguarded
    obtain ⟨earlier, call, later, newer, rfl, hguard, hlater⟩ := exists_last_guarded hguarded
    exact (state_runAll hguard hlater).ne_unchecked hstate
  · intro herrors
    rw [state_runAll_of_errors herrors, hunchecked]
  · rintro earlier call later rfl
    refine ⟨fun newer hguard hlater => state_runAll hguard hlater,
      fun newer hguard => guard_eq_ok hguard, ?_⟩
    have htarget := target_runAll versioned earlier
    obtain ⟨-, ⟨_, -, -, -, hleft⟩ | ⟨-, -, -, hleft⟩ | ⟨hguard, hdone⟩⟩ :=
      outcome_cases (runAll versioned earlier) call
    · exact fun _ => hleft
    · exact fun _ => hleft
    · rw [htarget] at hguard
      rintro (⟨error, herror⟩ | ⟨collection, version, hresult⟩)
      · simp [hguard] at herror
      · rcases hdone with ⟨cause, hfailed, -⟩ | ⟨count, hfinished, -⟩
        · simp [hfailed] at hresult
        · simp [hfinished] at hresult

/-! ### A success, a refusal and a failure -/

open Attempt (markTwo mixedSession one_le_versionTwo)

/-- Articles that are brought to version two. -/
def markingTwo : VersionedCollection where
  target := 2
  upgrade := markTwo.upgrade
  one_le_target := one_le_versionTwo

/-- An article of version three. -/
def newerArticle : Document :=
  [(idField, .int32 1), ("meta", .document [("version", .double ⟨0x4008000000000000⟩)])]

/-- A session with that article. -/
def newerSession : Session :=
  Change.run { store := { database := "db", ids := ⟨⟨0⟩, 0⟩ } } (.insert "articles" [newerArticle])

/-- An activation that succeeds. -/
def succeeding : Activation := ⟨mixedSession, "articles"⟩

/-- An activation that finds a newer article. -/
def refused : Activation := ⟨newerSession, "articles"⟩

/-- An activation whose count fails. -/
def failing : Activation := ⟨{ mixedSession with faults := .failingAt [1] }, "articles"⟩

/-- The statement for these three in their order, of which the second is the last that counts. -/
theorem state_tells_refused :
    VersionedCollection.declare 2 markTwo.upgrade = .ok markingTwo ∧
      (runAll markingTwo [succeeding]).state = .migrated ∧
      (runAll markingTwo [succeeding, refused, failing]).state = .fatal ∧
      left (runAll markingTwo [succeeding, refused]) failing = failing.counted := by
  have hdeclared : VersionedCollection.declare 2 markTwo.upgrade = .ok markingTwo := by rfl
  have hfailing : ∃ error, failing.guard 2 = .error error :=
    ⟨.backend (.other "unreachable"), by rfl⟩
  obtain ⟨-, hfirst⟩ := state_tells hdeclared [succeeding]
  obtain ⟨-, hthree⟩ := state_tells hdeclared [succeeding, refused, failing]
  have hmigrated := (hfirst [] succeeding [] rfl).1 false (by rfl) (by simp)
  have hfatal := (hthree [succeeding] refused [failing] rfl).1 true (by rfl)
    (by simpa using hfailing)
  have hcounted := (hthree [succeeding, refused] failing [] rfl).2.2 (.inl hfailing)
  have hdone : result (runAll markingTwo []) succeeding = .ok 2 := by rfl
  have hnewer : result (runAll markingTwo [succeeding]) refused =
      .error (.incompatibleVersion "articles" 2) := by rfl
  rw [hdone] at hmigrated
  rw [hnewer] at hfatal
  refine ⟨hdeclared, ?_, ?_, hcounted⟩
  · cases hmigrated
    rfl
  · cases hfatal
    rfl

end Activation

end VersionedStore
