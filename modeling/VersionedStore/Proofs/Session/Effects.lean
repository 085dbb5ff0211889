import VersionedStore.Session
import VersionedStore.Proofs.NameMap.Lookup

/-!
# What actions do to a handle

An action takes a handle to a result and a handle.  The statements here open the ways of
building actions, and say what using a handle leaves in the session.

* `Action.outcome_bind`, `Action.outcome_during`, `Action.outcome_perform`: the ways of building
  actions.  A call either fails and has no effect but its entry in the log, or it runs.
* `Action.outcome_perform_none`, `Action.outcome_count_none`, `Action.outcome_find_none`,
  `Action.outcome_insert_none`: without faults, it runs.
* `Action.outcome_bind_eq_ok`, `Action.outcome_during_eq_ok`, `Action.outcome_perform_eq_ok`: what
  such an action has done if it succeeds.
* `Action.perform_content`: what holds of the content when a call runs and when it fails holds
  after the call.
* `Session.handle_adopt`, `Session.adopt_calls`: the handle that comes next, and a handle that has
  only made calls.
* `Session.get?_adopt_self`, `Session.documents_adopt`, `Session.indexes_adopt`: the collection is
  as the handle left it.
* `Session.get?_on`: an action changes only the collection that it runs on.
-/

set_option autoImplicit false

namespace VersionedStore

/-- A result that is mapped to a value has one itself. -/
theorem Result.map_eq_ok {α β : Type} {f : α → β} {result : Result α} {value : β}
    (h : result.map f = .ok value) : ∃ original, result = .ok original ∧ f original = value := by
  cases result with
  | error _ => simp [Except.map] at h
  | ok original => exact ⟨original, rfl, Except.ok.inj h⟩

/-- A result without a value of interest is known by its success. -/
theorem Result.eq_ok_of_isOk {result : Result Unit} (h : result.isOk = true) :
    result = .ok () := by
  cases result with
  | error _ => exact absurd h Bool.false_ne_true
  | ok _ => rfl

namespace Action

variable {α β : Type}

/-- What an action gives on a handle: its result, and the handle as it leaves it. -/
def outcome (action : Action α) (handle : Handle) : Result α × Handle := action.run.run handle

/-- An action that gives a result only leaves its handle as it is. -/
@[simp] theorem outcome_ofResult (result : Result α) (handle : Handle) :
    (ofResult result).outcome handle = (result, handle) := rfl

/-- Actions run one after the other until one fails. -/
theorem outcome_bind (action : Action α) (next : α → Action β) (handle : Handle) :
    (action >>= next).outcome handle =
      match action.outcome handle with
      | (.ok value, handle') => (next value).outcome handle'
      | (.error error, handle') => (.error error, handle') := by
  show ((action >>= next).run.run handle : Id _) = _
  unfold outcome
  simp only [bind, ExceptT.bind, ExceptT.run, ExceptT.mk, StateT.bind, StateT.run]
  cases hresult : action handle with
  | mk result handle' => cases result <;> rfl

/-- After an action that succeeds, the next one goes on with its value and its handle. -/
theorem outcome_bind_ok {action : Action α} {next : α → Action β} {handle handle' : Handle}
    {value : α} (h : action.outcome handle = (.ok value, handle')) :
    (action >>= next).outcome handle = (next value).outcome handle' := by
  rw [outcome_bind, h]

/-- After an action that fails, nothing else is done. -/
theorem outcome_bind_error {action : Action α} {next : α → Action β} {handle handle' : Handle}
    {error : Error} (h : action.outcome handle = (.error error, handle')) :
    (action >>= next).outcome handle = (.error error, handle') := by
  rw [outcome_bind, h]

/-- Of actions that run one after the other and succeed, the first succeeds, and then the other. -/
theorem outcome_bind_eq_ok {action : Action α} {next : α → Action β} {handle after : Handle}
    {value : β} (h : (action >>= next).outcome handle = (.ok value, after)) :
    ∃ first middle, action.outcome handle = (.ok first, middle) ∧
      (next first).outcome middle = (.ok value, after) := by
  rcases hfirst : action.outcome handle with ⟨result, middle⟩
  cases result with
  | error error =>
    rw [outcome_bind_error hfirst] at h
    simp at h
  | ok first =>
    rw [outcome_bind_ok hfirst] at h
    exact ⟨first, middle, rfl, h⟩

/-- Passing over the value of an action leaves what it does alone. -/
theorem outcome_discard (action : Action α) (handle : Handle) :
    (do let _ ← action; pure () : Action Unit).outcome handle =
      ((action.outcome handle).1.map fun _ => (), (action.outcome handle).2) := by
  rw [outcome_bind]
  rcases action.outcome handle with ⟨result, after⟩
  cases result <;> rfl

/-- Wrapping the error of an action leaves what it does alone. -/
theorem outcome_during (context : String) (action : Action α) (handle : Handle) :
    (action.during context).outcome handle =
      (Result.during context (action.outcome handle).1, (action.outcome handle).2) := rfl

/-- An action with a context succeeds only where it does without the context. -/
theorem outcome_during_eq_ok {context : String} {action : Action α} {handle after : Handle}
    {value : α} (h : (action.during context).outcome handle = (.ok value, after)) :
    action.outcome handle = (.ok value, after) := by
  rw [outcome_during] at h
  rcases houtcome : action.outcome handle with ⟨result, after'⟩
  rw [houtcome] at h
  cases result with
  | error error => simp [Result.during, Except.mapError] at h
  | ok value' => exact h

end Action

/-- The plan under which the calls at some positions fail. -/
def Faults.failingAt (positions : List ℕ) : Faults :=
  ⟨fun position _ =>
    if positions.contains position then some (.backend (.other "unreachable")) else .none,
    fun _ _ => .none⟩

/-- The documents of the collection of a handle. -/
def Handle.documents (handle : Handle) : List Document :=
  (handle.content.map Collection.documents).getD []

/-- The indexes of the collection of a handle. -/
def Handle.indexes (handle : Handle) : NameMap IndexDefinition :=
  (handle.content.map Collection.indexes).getD ∅

/-- The indexes of a collection. -/
def Store.indexes (store : Store) (name : String) : NameMap IndexDefinition :=
  ((store.collections.get? name).map Collection.indexes).getD ∅

/-- A collection that has not come into being has the documents of an empty one. -/
theorem Handle.documents_eq (handle : Handle) :
    handle.documents = (handle.content.getD {}).documents := by
  unfold Handle.documents
  cases handle.content <;> rfl

/-- A collection that has not come into being has the indexes of an empty one. -/
theorem Handle.indexes_eq (handle : Handle) :
    handle.indexes = (handle.content.getD {}).indexes := by
  unfold Handle.indexes
  cases handle.content <;> rfl

/-- Whether an operation only reads. -/
def Operation.isRead : Operation → Bool
  | .listIndexes => true
  | .count => true
  | .find => true
  | _ => false

/-- A handle with a call in its log. -/
def Handle.logged (handle : Handle) (operation : Operation) : Handle :=
  { handle with calls := handle.calls ++ [⟨handle.name, operation⟩] }

/-- Logging a call leaves the content of the collection alone. -/
@[simp] theorem Handle.logged_content (handle : Handle) (operation : Operation) :
    (handle.logged operation).content = handle.content := rfl

/-- Logging a call leaves the name of the collection alone. -/
@[simp] theorem Handle.logged_space (handle : Handle) (operation : Operation) :
    (handle.logged operation).space = handle.space := rfl

namespace Action

variable {α : Type}

/-- A call either fails in the place of running, or runs. -/
theorem outcome_perform (operation : Operation) (run : Nat → Handle → Result α × Handle)
    (handle : Handle) :
    (perform operation run).outcome handle =
      match handle.faults.call handle.calls.length ⟨handle.name, operation⟩ with
      | some error => (.error error, handle.logged operation)
      | none => run handle.calls.length (handle.logged operation) := rfl

/-- A call that succeeds has run. -/
theorem outcome_perform_eq_ok {operation : Operation} {run : Nat → Handle → Result α × Handle}
    {handle after : Handle} {value : α}
    (h : (perform operation run).outcome handle = (.ok value, after)) :
    run handle.calls.length (handle.logged operation) = (.ok value, after) := by
  rw [outcome_perform] at h
  split at h
  · simp at h
  · exact h

/-- Without faults, every call runs. -/
theorem outcome_perform_none (operation : Operation) (run : Nat → Handle → Result α × Handle)
    {handle : Handle} (hfaults : handle.faults = .none) :
    (perform operation run).outcome handle =
      run handle.calls.length (handle.logged operation) := by
  rw [outcome_perform, hfaults]
  rfl

/-- Without faults, a count is that of the documents that match. -/
theorem outcome_count_none (filter : Document) {handle : Handle}
    (hfaults : handle.faults = .none) :
    (count filter).outcome handle =
      ((Collection.matching filter handle.documents).map List.length, handle.logged .count) := by
  unfold count Handle.documents
  rw [outcome_perform_none _ _ hfaults, Handle.logged_content]
  cases handle.content <;> rfl

/-- Without faults, a cursor returns the documents that match, as the options ask for them. -/
theorem outcome_find_none (filter : Document) (options : FindOptions) {handle : Handle}
    (hfaults : handle.faults = .none) :
    (find filter options).outcome handle =
      ((Collection.matching filter handle.documents).map fun found =>
        ⟨options.projected (options.page (options.sorted found)), none⟩, handle.logged .find) := by
  have hcursor : (handle.logged .find).faults = .none := hfaults
  unfold find Handle.documents
  rw [outcome_perform_none _ _ hfaults, Handle.logged_content, hcursor]
  cases handle.content with
  | none =>
    have hnothing : options.projected (options.page (options.sorted [])) = [] := by
      unfold FindOptions.projected FindOptions.page FindOptions.sorted
      cases options.sort <;> cases options.projection <;> simp [sortDocuments]
    simp only [Option.map_none, Option.getD_none, Collection.matching, Except.map, hnothing,
      Faults.none]
  | some collection =>
    simp only [Option.map_some, Option.getD_some, Collection.find, Faults.none]
    cases Collection.matching filter collection.documents <;> rfl

/-- Without faults, an insertion is that into the collection, which comes into being with it. -/
theorem outcome_insert_none (documents : List Document) {handle : Handle}
    (hfaults : handle.faults = .none) :
    let inserted :=
      Collection.insertAll handle.space handle.ids (handle.content.getD {}) documents
    (insert documents).outcome handle = (inserted.1,
      { handle.logged .insert with ids := inserted.2.1, content := some inserted.2.2 }) := by
  unfold insert
  rw [outcome_perform_none _ _ hfaults]
  rfl

/-- What holds of the content of a handle when a call runs, and held before it, holds after the
call. -/
theorem perform_content {P : Option Collection → Prop} {operation : Operation}
    {run : Nat → Handle → Result α × Handle} {handle : Handle} (hbefore : P handle.content)
    (hrun : ∀ position, P (run position (handle.logged operation)).2.content) :
    P ((perform operation run).outcome handle).2.content := by
  rw [outcome_perform]
  split
  · exact hbefore
  · exact hrun _

end Action

namespace Session

variable {α : Type}

/-- An action on a collection works on the handle of the collection, which the session takes
over. -/
theorem on_eq (session : Session) (name : String) (action : Action α) :
    session.on name action =
      ((action.outcome (session.handle name)).1,
        session.adopt name (action.outcome (session.handle name)).2) := rfl

/-- After a handle has been used, its collection is as the handle left it, and the others are as
they were. -/
theorem get?_adopt (session : Session) (name other : String) (handle : Handle) :
    (session.adopt name handle).store.collections.get? other =
      if other = name then handle.content.or (session.store.collections.get? name)
      else session.store.collections.get? other := by
  unfold adopt
  cases hcontent : handle.content with
  | none =>
    by_cases hother : other = name <;> simp [hother]
  | some content =>
    simp only [NameMap.get?_insert, Option.some_or]

/-- The handle to a collection after another handle to it has been adopted. -/
theorem handle_adopt (session : Session) (name : String) (handle : Handle) :
    (session.adopt name handle).handle name =
      { session.handle name with
        content := handle.content.or (session.handle name).content
        ids := handle.ids
        calls := handle.calls } := by
  have hcontent := get?_adopt session name name handle
  rw [if_pos rfl] at hcontent
  show Handle.mk _ _ ((session.adopt name handle).store.collections.get? name) _ _ _ = _
  rw [hcontent]
  rfl

/-- A handle that has only read leaves nothing but its log. -/
theorem adopt_calls (session : Session) (name : String) (calls : List Call) :
    session.adopt name { session.handle name with calls := calls } =
      { session with calls := calls } := by
  unfold adopt
  cases hpresent : (session.handle name).content with
  | none => rfl
  | some content =>
    have hsame : session.store.collections.insert name content = session.store.collections := by
      apply NameMap.ext_get?
      intro other
      rw [NameMap.get?_insert]
      split
      · rename_i hother
        rw [hother, ← hpresent]
        rfl
      · rfl
    simp only [hsame]
    rfl

/-- After a handle that has not lost its collection has been used, the collection is as the handle
left it. -/
theorem get?_adopt_self {session : Session} {name : String} {handle : Handle}
    (hpresent : (session.handle name).content.isSome = true → handle.content.isSome = true) :
    (session.adopt name handle).store.collections.get? name = handle.content := by
  rw [get?_adopt, if_pos rfl]
  cases hcontent : handle.content with
  | some collection => rfl
  | none =>
    rw [Option.none_or]
    cases hbefore : session.store.collections.get? name with
    | none => rfl
    | some collection =>
      have hsome : (session.handle name).content.isSome = true := by
        show (session.store.collections.get? name).isSome = true
        rw [hbefore]
        rfl
      have hlost := hpresent hsome
      rw [hcontent] at hlost
      exact absurd hlost (by simp)

/-- The documents of a handle that a session takes over are those of the collection. -/
theorem documents_adopt {session : Session} {name : String} {handle : Handle}
    (hpresent : (session.handle name).content.isSome = true → handle.content.isSome = true) :
    (session.adopt name handle).store.documents name = handle.documents := by
  unfold Store.documents Handle.documents
  rw [get?_adopt_self hpresent]

/-- The indexes of a handle that a session takes over are those of the collection. -/
theorem indexes_adopt {session : Session} {name : String} {handle : Handle}
    (hpresent : (session.handle name).content.isSome = true → handle.content.isSome = true) :
    (session.adopt name handle).store.indexes name = handle.indexes := by
  unfold Store.indexes Handle.indexes
  rw [get?_adopt_self hpresent]

/-- An action changes only the collection that it runs on. -/
theorem get?_on (session : Session) (name other : String) (action : Action α) :
    (session.on name action).2.store.collections.get? other =
      if other = name then
        (action.outcome (session.handle name)).2.content.or (session.store.collections.get? name)
      else session.store.collections.get? other := by
  rw [on_eq]
  exact get?_adopt session name other _

end Session

end VersionedStore
