import VersionedStore.Proofs.Filter.Evaluation

/-!
# Connectives that stop early

The fields of a filter, the operators of a map and the members of a group are evaluated from left to
right until one of them decides.  All of these are one of two functions on lists of results, of which
the order is seen in their errors only.

* `conjunction`, `disjunction`: the two functions, with what their truth values say of the results.
* `Filter.accepts_eq_conjunction`, `Condition.holds_of_map`: filters and maps of operators.
* `Filter.fieldAccepts_group`: groups of filters.
* `Filter.exists_filters_of_group`, `Filter.fieldAccepts_of_unsupported`: what a field whose name is
  that of an operator has to be.
-/

set_option autoImplicit false

namespace VersionedStore

/-- Whether all results are true, evaluated until one is not. -/
def conjunction : List (Result Bool) → Result Bool
  | [] => .ok true
  | .error error :: _ => .error error
  | .ok false :: _ => .ok false
  | .ok true :: rest => conjunction rest

/-- Whether some result is true, evaluated until one is. -/
def disjunction : List (Result Bool) → Result Bool
  | [] => .ok false
  | .error error :: _ => .error error
  | .ok true :: _ => .ok true
  | .ok false :: rest => disjunction rest

section Connectives

variable {results : List (Result Bool)}

/-- A conjunction is true if all results are. -/
theorem conjunction_eq_ok_true_iff :
    conjunction results = .ok true ↔ ∀ result ∈ results, result = .ok true := by
  induction results with
  | nil => simp [conjunction]
  | cons result rest ih =>
    match result with
    | .error error => simp [conjunction]
    | .ok false => simp [conjunction]
    | .ok true => simp [conjunction, ih]

/-- A conjunction that is false has a result that is false. -/
theorem mem_of_conjunction_eq_ok_false (h : conjunction results = .ok false) :
    .ok false ∈ results := by
  induction results with
  | nil => simp [conjunction] at h
  | cons result rest ih =>
    match result with
    | .error error => simp [conjunction] at h
    | .ok false => exact List.mem_cons_self
    | .ok true => exact List.mem_cons_of_mem _ (ih h)

/-- A disjunction is false if all results are. -/
theorem disjunction_eq_ok_false_iff :
    disjunction results = .ok false ↔ ∀ result ∈ results, result = .ok false := by
  induction results with
  | nil => simp [disjunction]
  | cons result rest ih =>
    match result with
    | .error error => simp [disjunction]
    | .ok true => simp [disjunction]
    | .ok false => simp [disjunction, ih]

/-- A disjunction that is true has a result that is true. -/
theorem mem_of_disjunction_eq_ok_true (h : disjunction results = .ok true) :
    .ok true ∈ results := by
  induction results with
  | nil => simp [disjunction] at h
  | cons result rest ih =>
    match result with
    | .error error => simp [disjunction] at h
    | .ok true => exact List.mem_cons_self
    | .ok false => exact List.mem_cons_of_mem _ (ih h)

end Connectives

namespace Condition

/-- The operators of a map must all hold. -/
theorem allHold_eq_conjunction (value : Option Value)
    (beside entries : List (String × Value)) :
    allHold value beside entries = conjunction (entries.map fun entry =>
      operatorHolds value beside entry.1 entry.2 fun _ => holds value entry.2) := by
  induction entries with
  | nil => simp only [allHold, List.map_nil, conjunction]
  | cons entry rest ih =>
    obtain ⟨operator, operand⟩ := entry
    rw [allHold, List.map_cons, ih]
    cases operatorHolds value beside operator operand fun _ => holds value operand with
    | error error => rfl
    | ok held => cases held <;> rfl

/-- A document that is no operator map is a value to be equal to. -/
theorem holds_of_not_map {fields : Document} (h : isOperatorMap fields = false)
    (value : Option Value) :
    holds value (.document fields) = .ok (equal value (.document fields)) := by
  rw [holds, if_neg (by simp [h])]

/-- An operator map holds of a value if each of its operators does, evaluated in order. -/
theorem holds_of_map {fields : Document} (h : isOperatorMap fields = true)
    (value : Option Value) :
    holds value (.document fields) = conjunction (fields.map fun entry =>
      operatorHolds value fields entry.1 entry.2 fun _ => holds value entry.2) := by
  rw [holds, if_pos h, allHold_eq_conjunction]

end Condition

namespace Filter

/-- The fields of a filter must all hold. -/
theorem accepts_eq_conjunction (document filter : Document) :
    accepts document filter =
      conjunction (filter.map fun field => fieldAccepts document field.1 field.2) := by
  induction filter with
  | nil => simp only [accepts_nil, List.map_nil, conjunction]
  | cons field rest ih =>
    obtain ⟨name, condition⟩ := field
    rw [accepts_cons, List.map_cons, ih]
    cases fieldAccepts document name condition with
    | error error => rfl
    | ok held => cases held <;> rfl

/-! ### Groups -/

/-- The names of the groups of filters. -/
def groupNames : List String := ["$and", "$or", "$nor"]

/-- What a group makes of the results of its members. -/
def groupResult (name : String) (results : List (Result Bool)) : Result Bool :=
  if name = "$and" then conjunction results
  else if name = "$or" then disjunction results
  else (disjunction results).map fun found => !found

/-- All filters of a group accept a document if the conjunction of their results is true. -/
theorem allAccept_eq_conjunction (document : Document) (filters : List Document) :
    allAccept document (filters.map .document) = conjunction (filters.map (accepts document)) := by
  induction filters with
  | nil => simp only [allAccept, List.map_nil, conjunction]
  | cons filter rest ih =>
    rw [List.map_cons, allAccept, List.map_cons, ih]
    cases accepts document filter with
    | error error => rfl
    | ok matched => cases matched <;> rfl

/-- Some filter of a group accepts a document if the disjunction of their results is true. -/
theorem anyAccepts_eq_disjunction (document : Document) (filters : List Document) :
    anyAccepts document (filters.map .document) = disjunction (filters.map (accepts document)) := by
  induction filters with
  | nil => simp only [anyAccepts, List.map_nil, disjunction]
  | cons filter rest ih =>
    rw [List.map_cons, anyAccepts, List.map_cons, ih]
    cases accepts document filter with
    | error error => rfl
    | ok matched => cases matched <;> rfl

/-- The members of a group must be documents. -/
theorem checkClauses_eq_ok_iff (operator : String) (clauses : List Value) :
    checkClauses operator clauses = .ok () ↔
      ∃ filters : List Document, clauses = filters.map .document := by
  induction clauses with
  | nil => exact ⟨fun _ => ⟨[], rfl⟩, fun _ => rfl⟩
  | cons clause rest ih =>
    cases clause with
    | document filter =>
      rw [checkClauses, ih]
      constructor
      · rintro ⟨filters, rfl⟩
        exact ⟨filter :: filters, rfl⟩
      · rintro ⟨filters, hfilters⟩
        cases filters with
        | nil => simp at hfilters
        | cons first others => exact ⟨others, (List.cons.inj hfilters).2⟩
    | _ =>
      constructor
      · intro h
        simp [checkClauses] at h
      · rintro ⟨filters, hfilters⟩
        cases filters <;> simp at hfilters

/-- A group of documents makes its result of theirs. -/
theorem fieldAccepts_group {name : String} (hname : name ∈ groupNames) (document : Document)
    (filters : List Document) :
    fieldAccepts document name (.array (filters.map .document)) =
      groupResult name (filters.map (accepts document)) := by
  have hcheck : checkClauses name (filters.map .document) = .ok () :=
    (checkClauses_eq_ok_iff name _).2 ⟨filters, rfl⟩
  have hcases : name = "$and" ∨ name = "$or" ∨ name = "$nor" := by
    simpa [groupNames] using hname
  rw [fieldAccepts, hcheck, allAccept_eq_conjunction, anyAccepts_eq_disjunction]
  unfold groupResult
  rcases hcases with rfl | rfl | rfl <;> rfl

/-- A group that evaluates has an array of documents. -/
theorem exists_filters_of_group {name : String} (hname : name ∈ groupNames) {document : Document}
    {condition : Value} {held : Bool} (h : fieldAccepts document name condition = .ok held) :
    ∃ filters : List Document, condition = .array (filters.map .document) := by
  have hcases : name = "$and" ∨ name = "$or" ∨ name = "$nor" := by
    simpa [groupNames] using hname
  cases condition with
  | array clauses =>
    cases hcheck : checkClauses name clauses with
    | ok _ =>
      obtain ⟨filters, rfl⟩ := (checkClauses_eq_ok_iff name clauses).1 hcheck
      exact ⟨filters, rfl⟩
    | error error =>
      rcases hcases with rfl | rfl | rfl <;> simp [fieldAccepts, hcheck, Except.bind] at h
  | _ => simp [fieldAccepts, hcases] at h

/-- The name of an operator that is no group is not supported. -/
theorem fieldAccepts_of_unsupported {name : String} (hoperator : isOperatorName name = true)
    (hname : name ∉ groupNames) (document : Document) (condition : Value) :
    fieldAccepts document name condition = .error (.backend (.unsupportedOperator name)) := by
  obtain ⟨hall, hany, hnone⟩ : name ≠ "$and" ∧ name ≠ "$or" ∧ name ≠ "$nor" := by
    simpa [groupNames] using hname
  cases condition <;> simp [fieldAccepts, hall, hany, hnone, hoperator]

end Filter

end VersionedStore
