import VersionedStore.Filter
import VersionedStore.Proofs.Value.Equality
import VersionedStore.Proofs.Value.Fields

/-!
# Evaluating filters

The equations by which filters are evaluated, one for each kind of field.

* `Filter.accepts_singleton`: a filter of one field is that field.
* `Filter.accepts_eq_ok_true_iff`: a filter matches if all its fields hold.
* `Filter.fieldAccepts_path`: a field whose name is no operator is a condition on a value.
* `Filter.fieldAccepts_all`, `Filter.fieldAccepts_any`: the groups.
* `Filter.accepts_id`: the filter for one plain identity.
-/

set_option autoImplicit false

namespace VersionedStore

/-- A path of one name is that name. -/
theorem Document.at?_of_pathNames {path name : String} (h : pathNames path = [name])
    (document : Document) : Document.at? document path = Document.get? document name := by
  unfold Document.at?
  rw [h]
  simp only [Value.descend]
  cases Document.get? document name <;> rfl

/-- The identity of a document is what the path of the identifying field leads to. -/
theorem Document.at?_idField (document : Document) :
    Document.at? document idField = Document.get? document idField :=
  Document.at?_of_pathNames (by decide) document

namespace Condition

/-- A condition that is no document is a value to be equal to. -/
theorem holds_of_kind_ne {condition : Value} (h : condition.kind ≠ .document)
    (value : Option Value) : holds value condition = .ok (equal value condition) := by
  cases condition with
  | document fields => exact absurd rfl h
  | _ => simp only [holds]

/-- A value that is no array equals another if comparisons see the two as equal. -/
theorem equal_of_not_isArray {value : Value} (h : value.isArray = false) (expected : Value) :
    equal (some value) expected = value.looselyEquals expected := by
  unfold equal Value.looselyEquals Value.comparand
  cases value with
  | array items => simp [Value.isArray] at h
  | _ => simp only [Comparand.ofValue]

end Condition

namespace Filter

/-- The empty filter accepts every document. -/
theorem accepts_nil (document : Document) : accepts document [] = .ok true := by
  simp only [accepts]

/-- A filter is evaluated entry by entry, and the first that fails or does not accept decides. -/
theorem accepts_cons (document : Document) (name : String) (condition : Value)
    (rest : Document) :
    accepts document ((name, condition) :: rest) =
      match fieldAccepts document name condition with
      | .error error => .error error
      | .ok false => .ok false
      | .ok true => accepts document rest := by
  cases hfield : fieldAccepts document name condition with
  | error error => simp only [accepts, hfield]
  | ok matched => cases matched <;> simp only [accepts, hfield]

/-- A filter of one field is that field. -/
theorem accepts_singleton (document : Document) (name : String) (condition : Value) :
    accepts document [(name, condition)] = fieldAccepts document name condition := by
  rw [accepts_cons]
  cases fieldAccepts document name condition with
  | error error => rfl
  | ok matched => cases matched <;> simp only [accepts_nil]

/-- A filter matches if each of its fields holds. -/
theorem accepts_eq_ok_true_iff {document filter : Document} :
    accepts document filter = .ok true ↔
      ∀ field ∈ filter, fieldAccepts document field.1 field.2 = .ok true := by
  induction filter with
  | nil => simp [accepts_nil]
  | cons field rest ih =>
    rw [List.forall_mem_cons, ← ih, accepts_cons]
    cases fieldAccepts document field.1 field.2 with
    | error error => simp
    | ok matched => cases matched <;> simp

/-- A field whose name is no operator is a condition on the value at a path. -/
theorem fieldAccepts_path {name : String} (h : isOperatorName name = false)
    (document : Document) (condition : Value) :
    fieldAccepts document name condition =
      Condition.holds (Document.at? document name) condition := by
  have hall : name ≠ "$and" := by
    rintro rfl
    exact absurd h (by decide)
  have hany : name ≠ "$or" := by
    rintro rfl
    exact absurd h (by decide)
  have hnone : name ≠ "$nor" := by
    rintro rfl
    exact absurd h (by decide)
  cases condition <;> simp [fieldAccepts, h, hall, hany, hnone]

/-- A filter of one operator at a path is that operator. -/
theorem accepts_operator {path operator : String} (hpath : isOperatorName path = false)
    (hoperator : isOperatorName operator = true) (document : Document) (operand : Value) :
    accepts document [(path, .document [(operator, operand)])] =
      Condition.operatorHolds (Document.at? document path) [(operator, operand)] operator operand
        fun _ => Condition.holds (Document.at? document path) operand := by
  have hmap : Condition.isOperatorMap [(operator, operand)] = true := hoperator
  rw [accepts_singleton, fieldAccepts_path hpath, Condition.holds, if_pos hmap, Condition.allHold]
  cases Condition.operatorHolds (Document.at? document path) [(operator, operand)] operator operand
    fun _ => Condition.holds (Document.at? document path) operand with
  | error error => rfl
  | ok held => cases held <;> simp only [Condition.allHold]

/-- The filters of a conjunction are documents, and all of them must match. -/
theorem fieldAccepts_all (document : Document) (clauses : List Value) :
    fieldAccepts document "$and" (.array clauses) =
      (checkClauses "$and" clauses).bind fun _ => allAccept document clauses := by
  simp only [fieldAccepts, if_true]

/-- The filters of a disjunction are documents, and one of them must match. -/
theorem fieldAccepts_any (document : Document) (clauses : List Value) :
    fieldAccepts document "$or" (.array clauses) =
      (checkClauses "$or" clauses).bind fun _ => anyAccepts document clauses := by
  have hne : ¬ "$or" = "$and" := by decide
  simp only [fieldAccepts, hne, if_false, if_true]

/-- The filter for a plain identity matches the documents whose identity is seen as equal to it, as
long as it is no array. -/
theorem accepts_id {document : Document} {id wanted : Value}
    (hid : Document.get? document idField = some id) (harray : id.isArray = false)
    (hwanted : wanted.isPlainId = true) :
    accepts document [(idField, wanted)] = .ok (id.looselyEquals wanted) := by
  have hkind : wanted.kind ≠ .document := by
    cases wanted <;> simp [Value.isPlainId, Value.kind] at hwanted ⊢
  rw [accepts_singleton, fieldAccepts_path (by decide), Document.at?_idField, hid,
    Condition.holds_of_kind_ne hkind, Condition.equal_of_not_isArray harray]

end Filter

end VersionedStore
