import VersionedStore.Params.Compile
import VersionedStore.Proofs.Filter.Evaluation

/-!
# The conditions of a filter one by one

A filter is a conjunction of atoms: the single operators on its fields, and its groups.  Where
every atom comes to a truth value, the filter does, and it matches if every atom does.

* `Atom`, `filterAtoms`: the atoms of a filter.
* `Decides`: a result that says whether something is the case.
* `Filter.accepts_decides`, `Condition.allHold_decides`: conjunctions that are evaluated from left
  to right.
* `fieldAccepts_decides`: a map of operators is the conjunction of its atoms.
-/

set_option autoImplicit false

namespace VersionedStore

/-- A result that comes to a truth value, which says whether something is the case. -/
def Decides (result : Result Bool) (P : Prop) : Prop :=
  ∃ held, result = .ok held ∧ (held = true ↔ P)

namespace Decides

variable {result : Result Bool} {P Q : Prop}

/-- A result decides whatever is the case together with what it decides. -/
theorem congr (h : Decides result P) (hPQ : P ↔ Q) : Decides result Q := by
  obtain ⟨held, hresult, hheld⟩ := h
  exact ⟨held, hresult, hheld.trans hPQ⟩

/-- A result that comes to a truth value says whether it is true. -/
theorem of_ok (h : ∃ held, result = .ok held) : Decides result (result = .ok true) := by
  obtain ⟨held, rfl⟩ := h
  exact ⟨held, rfl, by simp⟩

/-- Truth decides what is the case anyway. -/
theorem ok_true : Decides (.ok true) True := ⟨true, rfl, by simp⟩

/-- A result that decides something is no error. -/
theorem isOk (h : Decides result P) : ∃ held, result = .ok held := by
  obtain ⟨held, hresult, -⟩ := h
  exact ⟨held, hresult⟩

/-- What a result decides is the case if the result is true. -/
theorem eq_ok_true_iff (h : Decides result P) : result = .ok true ↔ P := by
  obtain ⟨held, rfl, hheld⟩ := h
  simp [← hheld]

/-- Two results one after the other, the second only if the first is true. -/
theorem and_then {first second : Result Bool} :
    Decides first P → Decides second Q →
    Decides (match first with
      | .error error => .error error
      | .ok false => .ok false
      | .ok true => second) (P ∧ Q) := by
  rintro ⟨held, rfl, hheld⟩ ⟨held', rfl, hheld'⟩
  cases held with
  | false => exact ⟨false, rfl, by simp [← hheld]⟩
  | true => exact ⟨held', rfl, by simp [← hheld, ← hheld']⟩

end Decides

/-- The operators of a map are evaluated from left to right. -/
theorem Condition.allHold_decides {value : Option Value} {beside entries : List (String × Value)}
    {P : String × Value → Prop}
    (h : ∀ entry ∈ entries, Decides (operatorHolds value beside entry.1 entry.2 fun _ =>
      holds value entry.2) (P entry)) :
    Decides (allHold value beside entries) (∀ entry ∈ entries, P entry) := by
  induction entries with
  | nil =>
    rw [allHold]
    exact Decides.ok_true.congr (by simp)
  | cons entry rest ih =>
    rw [allHold]
    refine ((h entry List.mem_cons_self).and_then
      (ih fun other hother => h other (List.mem_cons_of_mem _ hother))).congr ?_
    simp

/-- The fields of a filter are evaluated from left to right. -/
theorem Filter.accepts_decides {document filter : Document} {P : String × Value → Prop}
    (h : ∀ field ∈ filter, Decides (fieldAccepts document field.1 field.2) (P field)) :
    Decides (accepts document filter) (∀ field ∈ filter, P field) := by
  induction filter with
  | nil =>
    rw [accepts_nil]
    exact Decides.ok_true.congr (by simp)
  | cons field rest ih =>
    rw [accepts]
    refine ((h field List.mem_cons_self).and_then
      (ih fun other hother => h other (List.mem_cons_of_mem _ hother))).congr ?_
    simp

namespace Params

/-- One condition of a filter: an operator on a field with its operand, where a pattern may have
options, or a group. -/
inductive Atom where
  | condition (field operator : String) (operand : Value) (options : Option Value)
  | group (operator : String) (operand : Value)

namespace Atom

/-- The filter of one atom. -/
def filter : Atom → Document
  | .condition field operator operand none => [(field, .document [(operator, operand)])]
  | .condition field operator operand (some options) =>
    [(field, .document [(operator, operand), (opOptions, options)])]
  | .group operator operand => [(operator, operand)]

/-- Whether an atom matches a document. -/
def accepts (document : Document) (atom : Atom) : Result Bool :=
  Filter.accepts document atom.filter

end Atom

/-- The operators of a condition; a plain value is an operand of equality. -/
def operatorsOf : Value → Document
  | .document operators => operators
  | plain => [(opEqual, plain)]

/-- The atoms of a map of operators.  The options of a pattern are no atom of their own. -/
def operatorAtoms (field : String) (operators : Document) : List Atom :=
  operators.filterMap fun entry =>
    if entry.1 = opOptions then none
    else some (.condition field entry.1 entry.2
      (if entry.1 = opPattern then Document.get? operators opOptions else none))

/-- The atoms of one field of a filter. -/
def fieldAtoms (name : String) (condition : Value) : List Atom :=
  if name = opAll ∨ name = opAny then [.group name condition]
  else operatorAtoms name (operatorsOf condition)

/-- The atoms of a filter. -/
def filterAtoms (filter : Document) : List Atom :=
  filter.flatMap fun field => fieldAtoms field.1 field.2

/-- A map of operators in which every name is that of an operator and stands once, and options stand
beside a pattern only. -/
structure OperatorMap (operators : Document) : Prop where
  distinct : (Document.names operators).Nodup
  named : ∀ name ∈ Document.names operators, isOperatorName name = true
  options_beside : opOptions ∈ Document.names operators → opPattern ∈ Document.names operators

/-- What stands beside an operator matters to patterns, which have options, and to options. -/
theorem operatorHolds_beside {value : Option Value} {beside beside' : List (String × Value)}
    {operator : String} {operand : Value} {inner : Unit → Result Bool}
    (hoperator : operator ≠ opOptions)
    (hoptions : operator = opPattern →
      Document.get? beside opOptions = Document.get? beside' opOptions) :
    Condition.operatorHolds value beside operator operand inner =
      Condition.operatorHolds value beside' operator operand inner := by
  unfold Condition.operatorHolds
  split <;> try rfl
  · rw [show Document.get? beside "$options" = Document.get? beside' "$options" from
      hoptions rfl]
  · exact absurd rfl hoperator

/-- A field whose condition is a map of operators is evaluated operator by operator. -/
theorem fieldAccepts_operators {field : String} (hfield : isOperatorName field = false)
    {operators : Document} (hne : operators ≠ [])
    (hnamed : ∀ name ∈ Document.names operators, isOperatorName name = true)
    (document : Document) :
    Filter.fieldAccepts document field (.document operators) =
      Condition.allHold (Document.at? document field) operators operators := by
  rw [Filter.fieldAccepts_path hfield]
  cases operators with
  | nil => exact absurd rfl hne
  | cons first rest =>
    have hmap : Condition.isOperatorMap (first :: rest) = true := hnamed first.1 (by simp)
    rw [Condition.holds, if_pos hmap]

/-- Options are satisfied when they stand beside a pattern. -/
theorem operatorHolds_options {beside : Document} (h : opPattern ∈ Document.names beside)
    (value : Option Value) (operand : Value) (inner : Unit → Result Bool) :
    Condition.operatorHolds value beside opOptions operand inner = .ok true := by
  show (if Document.contains beside opPattern then Except.ok true else _) = _
  rw [if_pos ((Document.contains_iff beside opPattern).2 h)]

/-- An operator with what is satisfied behind it is evaluated alone. -/
theorem allHold_of_rest {value : Option Value} {operators beside rest : Document}
    {operator : String} (hoperator : operator ≠ opOptions)
    (hoptions : operator = opPattern →
      Document.get? beside opOptions = Document.get? operators opOptions)
    (hrest : Condition.allHold value beside rest = .ok true) (operand : Value) :
    Condition.allHold value beside ((operator, operand) :: rest) =
      Condition.operatorHolds value operators operator operand fun _ =>
        Condition.holds value operand := by
  rw [Condition.allHold, hrest, operatorHolds_beside hoperator hoptions]
  cases Condition.operatorHolds value operators operator operand fun _ =>
      Condition.holds value operand with
  | error error => rfl
  | ok held => cases held <;> rfl

/-- The atom of an operator in a map is evaluated as that operator beside the others. -/
theorem accepts_operatorAtom {field : String} (hfield : isOperatorName field = false)
    {operators : Document} {operator : String} (hnamed : isOperatorName operator = true)
    (hoperator : operator ≠ opOptions) (operand : Value) (document : Document) :
    Atom.accepts document (.condition field operator operand
        (if operator = opPattern then Document.get? operators opOptions else none)) =
      Condition.operatorHolds (Document.at? document field) operators operator operand fun _ =>
        Condition.holds (Document.at? document field) operand := by
  unfold Atom.accepts
  cases hoptions : (if operator = opPattern then Document.get? operators opOptions else none) with
  | none =>
    show Filter.accepts document [(field, .document [(operator, operand)])] = _
    rw [Filter.accepts_singleton, fieldAccepts_operators hfield (by simp) (by simpa using hnamed)]
    refine allHold_of_rest hoperator (fun hpattern => ?_) (by rw [Condition.allHold]) operand
    rw [if_pos hpattern] at hoptions
    rw [hoptions, Document.get?_cons, if_neg hoperator]
    rfl
  | some options =>
    show Filter.accepts document
      [(field, .document [(operator, operand), (opOptions, options)])] = _
    have hpattern : operator = opPattern := by
      by_contra hne
      rw [if_neg hne] at hoptions
      exact absurd hoptions (by simp)
    rw [if_pos hpattern] at hoptions
    have hnames : ∀ name ∈ Document.names [(operator, operand), (opOptions, options)],
        isOperatorName name = true := by
      intro name hname
      simp only [Document.names_cons, Document.names_nil, List.mem_cons, List.not_mem_nil,
        or_false] at hname
      rcases hname with rfl | rfl
      · exact hnamed
      · decide
    have hrest : Condition.allHold (Document.at? document field)
        [(operator, operand), (opOptions, options)] [(opOptions, options)] = .ok true := by
      rw [Condition.allHold, operatorHolds_options (by simp [hpattern])]
      simp only [Condition.allHold]
    rw [Filter.accepts_singleton, fieldAccepts_operators hfield (by simp) hnames]
    refine allHold_of_rest hoperator (fun _ => ?_) hrest operand
    rw [Document.get?_cons, if_neg hoperator, hoptions]
    rfl

/-- A map of operators is the conjunction of its atoms. -/
theorem fieldAccepts_decides {field : String} (hfield : isOperatorName field = false)
    {operators : Document} (hoperators : OperatorMap operators) (hne : operators ≠ [])
    {document : Document}
    (hdecided : ∀ atom ∈ operatorAtoms field operators, ∃ held, atom.accepts document = .ok held) :
    Decides (Filter.fieldAccepts document field (.document operators))
      (∀ atom ∈ operatorAtoms field operators, atom.accepts document = .ok true) := by
  have hatom : ∀ entry ∈ operators, entry.1 ≠ opOptions →
      Atom.condition field entry.1 entry.2
        (if entry.1 = opPattern then Document.get? operators opOptions else none) ∈
          operatorAtoms field operators := fun entry hentry hne =>
    List.mem_filterMap.2 ⟨entry, hentry, by rw [if_neg hne]⟩
  rw [fieldAccepts_operators hfield hne hoperators.named]
  refine (Condition.allHold_decides (P := fun entry => entry.1 ≠ opOptions →
    Atom.accepts document (.condition field entry.1 entry.2
      (if entry.1 = opPattern then Document.get? operators opOptions else none)) = .ok true)
    ?_).congr ?_
  · intro entry hentry
    have hnamed := hoperators.named entry.1 (Document.mem_names_of_mem hentry)
    by_cases hoptions : entry.1 = opOptions
    · have hbeside := hoperators.options_beside (hoptions ▸ Document.mem_names_of_mem hentry)
      rw [hoptions, operatorHolds_options hbeside]
      exact Decides.ok_true.congr (by simp)
    · rw [← accepts_operatorAtom hfield hnamed hoptions]
      refine (Decides.of_ok (hdecided _ (hatom entry hentry hoptions))).congr ?_
      exact ⟨fun h _ => h, fun h => h hoptions⟩
  · constructor
    · intro h atom hmem
      obtain ⟨entry, hentry, heq⟩ := List.mem_filterMap.1 hmem
      by_cases hoptions : entry.1 = opOptions
      · rw [if_pos hoptions] at heq
        exact absurd heq (by simp)
      · rw [if_neg hoptions] at heq
        rw [← Option.some.inj heq]
        exact h entry hentry hoptions
    · intro h entry hentry hoptions
      exact h _ (hatom entry hentry hoptions)

/-! ### Groups -/

/-- A group that comes to a truth value is a group of an array. -/
theorem exists_array_of_group {operator : String} {operand : Value} {document : Document}
    (hoperator : operator = opAll ∨ operator = opAny)
    (h : ∃ held, Atom.accepts document (.group operator operand) = .ok held) :
    ∃ members, operand = .array members := by
  obtain ⟨held, hheld⟩ := h
  unfold Atom.accepts Atom.filter at hheld
  rw [Filter.accepts_singleton] at hheld
  have hgroup : operator = "$and" ∨ operator = "$or" ∨ operator = "$nor" := by
    rcases hoperator with rfl | rfl
    · exact .inl rfl
    · exact .inr (.inl rfl)
  cases operand with
  | array members => exact ⟨members, rfl⟩
  | _ => simp [Filter.fieldAccepts, hgroup] at hheld

/-- A conjunction comes to a truth value when its members are filters and all of them together
do. -/
theorem accepts_all_iff {members : List Value} {document : Document} {held : Bool} :
    Atom.accepts document (.group opAll (.array members)) = .ok held ↔
      Filter.checkClauses opAll members = .ok () ∧
        Filter.allAccept document members = .ok held := by
  have hgroup : Atom.accepts document (.group opAll (.array members)) =
      (Filter.checkClauses opAll members).bind fun _ => Filter.allAccept document members := by
    unfold Atom.accepts Atom.filter
    rw [Filter.accepts_singleton]
    exact Filter.fieldAccepts_all document members
  rw [hgroup]
  cases Filter.checkClauses opAll members <;> simp [Except.bind]

/-- Members that may stand in a group may be put behind others. -/
theorem checkClauses_append {operator : String} {members members' : List Value}
    (h : Filter.checkClauses operator members = .ok ())
    (h' : Filter.checkClauses operator members' = .ok ()) :
    Filter.checkClauses operator (members ++ members') = .ok () := by
  induction members with
  | nil => exact h'
  | cons member rest ih =>
    cases member with
    | document fields => exact ih h
    | _ => simp [Filter.checkClauses] at h

/-- The members of a conjunction are evaluated from left to right. -/
theorem allAccept_append (document : Document) (members members' : List Value) :
    Filter.allAccept document (members ++ members') =
      match Filter.allAccept document members with
      | .error error => .error error
      | .ok false => .ok false
      | .ok true => Filter.allAccept document members' := by
  induction members with
  | nil => simp only [List.nil_append, Filter.allAccept]
  | cons member rest ih =>
    cases member with
    | document fields =>
      simp only [List.cons_append, Filter.allAccept, ih]
      cases Filter.accepts document fields with
      | error error => rfl
      | ok held => cases held <;> rfl
    | _ => simpa only [List.cons_append, Filter.allAccept] using ih

/-- Two conjunctions in one array hold if both do. -/
theorem all_append_decides {members members' : List Value} {document : Document}
    (h : ∃ held, Atom.accepts document (.group opAll (.array members)) = .ok held)
    (h' : ∃ held, Atom.accepts document (.group opAll (.array members')) = .ok held) :
    Decides (Atom.accepts document (.group opAll (.array (members ++ members'))))
      (Atom.accepts document (.group opAll (.array members)) = .ok true ∧
        Atom.accepts document (.group opAll (.array members')) = .ok true) := by
  obtain ⟨held, hheld⟩ := h
  obtain ⟨held', hheld'⟩ := h'
  rw [hheld, hheld']
  obtain ⟨hclauses, hmembers⟩ := accepts_all_iff.1 hheld
  obtain ⟨hclauses', hmembers'⟩ := accepts_all_iff.1 hheld'
  have hboth : Atom.accepts document (.group opAll (.array (members ++ members'))) =
      .ok (held && held') := by
    refine accepts_all_iff.2 ⟨checkClauses_append hclauses hclauses', ?_⟩
    rw [allAccept_append, hmembers, hmembers']
    cases held <;> rfl
  exact ⟨held && held', hboth, by simp⟩

/-- A conjunction of two filters holds if both do. -/
theorem all_pair_decides {first second : Document} {document : Document}
    (h : ∃ held, Filter.accepts document first = .ok held)
    (h' : ∃ held, Filter.accepts document second = .ok held) :
    Decides (Atom.accepts document (.group opAll (.array [.document first, .document second])))
      (Filter.accepts document first = .ok true ∧ Filter.accepts document second = .ok true) := by
  obtain ⟨held, hheld⟩ := h
  obtain ⟨held', hheld'⟩ := h'
  have hboth : Atom.accepts document
      (.group opAll (.array [.document first, .document second])) = .ok (held && held') := by
    refine accepts_all_iff.2 ⟨rfl, ?_⟩
    simp only [Filter.allAccept, hheld, hheld']
    cases held <;> cases held' <;> rfl
  exact ⟨held && held', hboth, by simp [hheld, hheld']⟩

end Params

end VersionedStore
