import VersionedStore.Proofs.Params.Merging
import Mathlib.Data.List.Flatten

/-!
# The atoms of contributions

The contributions of field rules are grouped by target, and the operands of one target are gathered
in one map of operators.  The result stands for one atom for each contribution whose key is in the
input.

* `Contribution.operand?`: the operand that a contribution gives, if it gives one.
* `contributedAtoms`, `contributedPairs`: what the contributions ask for.
* `conditionOf_eq`: the operators of one target are those of its contributions, in their order.
* `get?_fieldConditions_grouped`: the conditions on all targets, name by name.
* `fieldConditions_represents`: the conditions on all targets stand for the atoms of the
  contributions.
-/

set_option autoImplicit false

namespace VersionedStore.Params

/-- The operand that a contribution gives, if its key is in the input.  One that stands alone gives
none for null as the operand of membership. -/
def Contribution.operand? (input : Document) (alone : Bool) (contribution : Contribution) :
    Option Value :=
  match Document.get? input contribution.key with
  | none => none
  | some raw =>
    match operandOf contribution raw with
    | .error _ => none
    | .ok operand =>
      if alone = true ∧ (contribution.operator = opIn ∨ contribution.operator = opNotIn) ∧
          operand.kind = .null then none
      else some operand

/-- The operators that a contribution adds to its target. -/
def Contribution.entries (input : Document) (alone : Bool) (contribution : Contribution) :
    Document :=
  match contribution.operand? input alone with
  | none => []
  | some operand => addOperand [] contribution.operator operand

/-- Whether a target has only one contribution. -/
def standsAlone (rules : RuleSet) (target : String) : Bool :=
  ((contributions rules).filter fun entry => entry.1 == target).length == 1

/-- The atom that a contribution asks for. -/
def contributedAtom? (input : Document) (alone : Bool) (target : String)
    (contribution : Contribution) : Option Atom :=
  (contribution.operand? input alone).map fun operand =>
    .condition target contribution.operator operand
      (if contribution.operator = opPattern then some patternOptions else none)

/-- The atoms of the contributions whose keys are in the input. -/
def contributedAtoms (rules : RuleSet) (input : Document) : List Atom :=
  (contributions rules).filterMap fun entry =>
    contributedAtom? input (standsAlone rules entry.1) entry.1 entry.2

/-- The operators that are contributed, each with its target. -/
def contributedPairs (rules : RuleSet) (input : Document) : List (String × String) :=
  (contributions rules).flatMap fun entry =>
    (Document.names (entry.2.entries input (standsAlone rules entry.1))).map fun operator =>
      (entry.1, operator)

/-- A pattern that is the first operand has its options behind it. -/
theorem addOperand_pattern (operand : Value) :
    addOperand [] opPattern operand = [(opPattern, operand), (opOptions, patternOptions)] := rfl

/-- An operand that is no pattern is set under its operator. -/
theorem addOperand_of_ne {operator : String} (h : operator ≠ opPattern) (operators : Document)
    (operand : Value) :
    addOperand operators operator operand = Document.set operators operator operand :=
  if_neg h

/-- An operand under a new operator comes behind the others. -/
theorem addOperand_eq_append {operators : Document} {operator : String} {operand : Value}
    (hnew : ∀ name ∈ Document.names (addOperand [] operator operand),
      name ∉ Document.names operators) :
    addOperand operators operator operand = operators ++ addOperand [] operator operand := by
  by_cases hpattern : operator = opPattern
  · subst hpattern
    rw [addOperand_pattern] at hnew ⊢
    have hoptions : opOptions ∉ Document.names (operators ++ [(opPattern, operand)]) := by
      rw [Document.names_append, List.mem_append, not_or]
      refine ⟨hnew opOptions (by simp), ?_⟩
      show opOptions ∉ [opPattern]
      decide
    show Document.set (Document.set operators opPattern operand) opOptions patternOptions = _
    rw [Document.set_of_not_mem operand (hnew opPattern (by simp)),
      Document.set_of_not_mem _ hoptions, List.append_assoc]
    rfl
  · rw [addOperand_of_ne hpattern] at hnew
    rw [addOperand_of_ne hpattern, addOperand_of_ne hpattern]
    exact Document.set_of_not_mem operand (hnew operator (by simp [Document.set]))

/-- Beside other contributions, null is an operand like any other. -/
theorem entries_beside (input : Document) (contribution : Contribution) :
    contribution.entries input false =
      match Document.get? input contribution.key with
      | none => []
      | some raw =>
        match operandOf contribution raw with
        | .error _ => []
        | .ok operand => addOperand [] contribution.operator operand := by
  unfold Contribution.entries Contribution.operand?
  cases Document.get? input contribution.key with
  | none => rfl
  | some raw =>
    simp only [Bool.false_eq_true, false_and, if_false]
    cases operandOf contribution raw <;> rfl

/-- The operands of several contributions are gathered in their order. -/
theorem gatherOperators_eq {input : Document} {several : List Contribution}
    {condition gathered : Option Document}
    (h : gatherOperators input condition several = .ok gathered)
    (hdistinct : (Document.names (condition.getD [] ++
      several.flatMap (Contribution.entries input false))).Nodup) :
    gathered.getD [] = condition.getD [] ++ several.flatMap (Contribution.entries input false) := by
  induction several generalizing condition with
  | nil =>
    obtain rfl := Except.ok.inj h
    simp
  | cons contribution rest ih =>
    unfold gatherOperators at h
    rw [List.flatMap_cons] at hdistinct ⊢
    rw [entries_beside] at hdistinct ⊢
    cases hraw : Document.get? input contribution.key with
    | none =>
      simp only [hraw, List.nil_append] at h hdistinct ⊢
      exact ih h hdistinct
    | some raw =>
      simp only [hraw] at h hdistinct ⊢
      cases hoperand : operandOf contribution raw with
      | error error => simp [hoperand] at h
      | ok operand =>
        simp only [hoperand] at h hdistinct ⊢
        rw [← List.append_assoc] at hdistinct ⊢
        have hadded : addOperand (condition.getD []) contribution.operator operand =
            condition.getD [] ++ addOperand [] contribution.operator operand := by
          refine addOperand_eq_append fun name hname hthere => ?_
          rw [Document.names_append, Document.names_append, List.nodup_append,
            List.nodup_append] at hdistinct
          exact hdistinct.1.2.2 name hthere name hname rfl
        rw [← hadded] at hdistinct ⊢
        exact ih h hdistinct

/-- The operators of a target with one contribution are those that it adds. -/
theorem singleOperator_eq {input : Document} {contribution : Contribution} {raw operand : Value}
    (hraw : Document.get? input contribution.key = some raw)
    (hoperand : operandOf contribution raw = .ok operand) {operators : Document}
    (h : singleOperator contribution operand = .ok operators) :
    operators = contribution.entries input true := by
  unfold singleOperator at h
  unfold Contribution.entries Contribution.operand?
  simp only [hraw, hoperand, true_and]
  by_cases hmembership : contribution.operator = opIn ∨ contribution.operator = opNotIn
  · have hpattern : contribution.operator ≠ opPattern := by
      rintro hpattern
      rw [hpattern] at hmembership
      exact absurd hmembership (by decide)
    rw [if_pos hmembership] at h
    cases operand with
    | null =>
      rw [if_pos ⟨hmembership, rfl⟩]
      exact (Except.ok.inj h).symm
    | array items =>
      rw [if_neg fun hnull => absurd hnull.2 (by simp [Value.kind])]
      simp only
      rw [addOperand_of_ne hpattern]
      exact (Except.ok.inj h).symm
    | _ => simp at h
  · rw [if_neg hmembership] at h
    rw [if_neg fun hnull => hmembership hnull.1]
    exact (Except.ok.inj h).symm

/-- The operators of a target are those that its contributions add, in their order. -/
theorem conditionOf_eq {input : Document} {several : List Contribution}
    {condition : Option Document} (h : conditionOf input several = .ok condition)
    (hdistinct : (Document.names
      (several.flatMap (Contribution.entries input (several.length == 1)))).Nodup) :
    condition.getD [] = several.flatMap (Contribution.entries input (several.length == 1)) := by
  match several, h, hdistinct with
  | [], h, hdistinct => exact gatherOperators_eq h hdistinct
  | [contribution], h, hdistinct =>
    unfold conditionOf at h
    show _ = [contribution].flatMap (Contribution.entries input true)
    rw [List.flatMap_singleton]
    cases hraw : Document.get? input contribution.key with
    | none =>
      simp only [hraw] at h
      rw [← Except.ok.inj h]
      unfold Contribution.entries Contribution.operand?
      rw [hraw]
      rfl
    | some raw =>
      simp only [hraw] at h
      cases hoperand : operandOf contribution raw with
      | error error => simp [hoperand, bind, Except.bind] at h
      | ok operand =>
        cases hoperators : singleOperator contribution operand with
        | error error => simp [hoperand, hoperators, bind, Except.bind] at h
        | ok operators =>
          simp only [hoperand, hoperators, bind, Except.bind, pure, Except.pure,
            Except.ok.injEq] at h
          rw [← h]
          exact singleOperator_eq hraw hoperand hoperators
  | first :: second :: rest, h, hdistinct => exact gatherOperators_eq h hdistinct

/-- Options that no pattern stands beside are a mistake. -/
theorem not_decided_of_options {target : String} (htarget : isOperatorName target = false)
    (operand : Value) (document : Document) :
    ¬ ∃ held, Atom.accepts document (.condition target opOptions operand none) = .ok held := by
  rintro ⟨held, hheld⟩
  unfold Atom.accepts Atom.filter at hheld
  rw [Filter.accepts_singleton, fieldAccepts_operators htarget (by simp) (by
    intro name hname
    rw [Document.names_cons, Document.names_nil, List.mem_singleton] at hname
    rw [hname]
    exact (by decide : isOperatorName opOptions = true)), Condition.allHold] at hheld
  have hrefused : Condition.operatorHolds (Document.at? document target) [(opOptions, operand)]
      opOptions operand (fun _ => Condition.holds (Document.at? document target) operand) =
        .error (.backend (.unsupportedOperator opOptions)) := rfl
  rw [hrefused] at hheld
  simp at hheld

section Group

variable {input : Document} {alone : Bool} (target : String)

/-- What a contribution adds is a map of operators, with the atom that it asks for. -/
theorem entries_operatorMap {contribution : Contribution}
    (hnamed : isOperatorName contribution.operator = true)
    (hoptions : ∀ operand, contribution.operand? input alone = some operand →
      contribution.operator ≠ opOptions) :
    OperatorMap (contribution.entries input alone) ∧
      operatorAtoms target (contribution.entries input alone) =
        (contributedAtom? input alone target contribution).toList := by
  unfold Contribution.entries contributedAtom?
  cases hoperand : contribution.operand? input alone with
  | none => exact ⟨⟨List.nodup_nil, by simp, by simp⟩, rfl⟩
  | some operand =>
    have hne := hoptions operand hoperand
    simp only [Option.map_some, Option.toList_some]
    by_cases hpattern : contribution.operator = opPattern
    · rw [hpattern, addOperand_pattern, if_pos rfl]
      refine ⟨⟨?_, ?_, fun _ => by simp⟩, rfl⟩
      · show [opPattern, opOptions].Nodup
        decide
      · show ∀ name ∈ [opPattern, opOptions], isOperatorName name = true
        decide
    · rw [addOperand_of_ne hpattern, if_neg hpattern]
      refine ⟨⟨List.nodup_singleton _, ?_, ?_⟩, ?_⟩
      · intro name hname
        obtain rfl : name = contribution.operator := by simpa [Document.set] using hname
        exact hnamed
      · intro hmem
        have heq : opOptions = contribution.operator := by simpa [Document.set] using hmem
        exact absurd heq.symm hne
      · simp [operatorAtoms, Document.set, hne, hpattern]

/-- What several contributions add, under distinct names, is a map of operators, with the atoms that
they ask for. -/
theorem flatMap_entries_operatorMap {several : List Contribution}
    (hnamed : ∀ contribution ∈ several, isOperatorName contribution.operator = true)
    (hoptions : ∀ contribution ∈ several, ∀ operand,
      contribution.operand? input alone = some operand → contribution.operator ≠ opOptions)
    (hdistinct : (Document.names
      (several.flatMap (Contribution.entries input alone))).Nodup) :
    OperatorMap (several.flatMap (Contribution.entries input alone)) ∧
      operatorAtoms target (several.flatMap (Contribution.entries input alone)) =
        several.filterMap (contributedAtom? input alone target) := by
  induction several with
  | nil => exact ⟨⟨List.nodup_nil, by simp, by simp⟩, rfl⟩
  | cons contribution rest ih =>
    rw [List.flatMap_cons] at hdistinct ⊢
    have hrestDistinct : (Document.names
        (rest.flatMap (Contribution.entries input alone))).Nodup := by
      rw [Document.names_append, List.nodup_append] at hdistinct
      exact hdistinct.2.1
    obtain ⟨hmap, hatoms⟩ := entries_operatorMap target
      (hnamed contribution List.mem_cons_self) (hoptions contribution List.mem_cons_self)
    obtain ⟨hrestMap, hrestAtoms⟩ := ih
      (fun other hother => hnamed other (List.mem_cons_of_mem _ hother))
      (fun other hother => hoptions other (List.mem_cons_of_mem _ hother)) hrestDistinct
    refine ⟨hmap.append hrestMap hdistinct, ?_⟩
    rw [operatorAtoms_append target hmap hrestMap hdistinct, hatoms, hrestAtoms,
      List.filterMap_cons]
    cases contributedAtom? input alone target contribution <;> rfl

end Group

/-- The operators that the contributions to one target add. -/
def groupOperators (input : Document) (several : List Contribution) : Document :=
  several.flatMap (Contribution.entries input (several.length == 1))

/-- A filter with a condition on a new target, if there is one. -/
def withCondition (result : Document) (target : String) : Option Document → Document
  | none => result
  | some operators => Document.set result target (.document operators)

/-- The condition on the first target is set, and then those on the others. -/
theorem fieldConditions_cons {input result fields : Document} {target : String}
    {several : List Contribution} {rest : List (String × List Contribution)}
    (h : fieldConditions input result ((target, several) :: rest) = .ok fields) :
    ∃ condition, conditionOf input several = .ok condition ∧
      fieldConditions input (withCondition result target condition) rest = .ok fields := by
  unfold fieldConditions at h
  cases hcondition : conditionOf input several with
  | error error => simp [hcondition] at h
  | ok condition =>
    rw [hcondition] at h
    cases condition with
    | none => exact ⟨none, rfl, h⟩
    | some operators => exact ⟨some operators, rfl, h⟩

/-- The fields are those that were there and the target. -/
theorem mem_names_withCondition {result : Document} {target name : String}
    {condition : Option Document} (hnew : target ∉ Document.names result)
    (hname : name ∈ Document.names (withCondition result target condition)) :
    name ∈ Document.names result ∨ name = target := by
  cases condition with
  | none => exact .inl hname
  | some operators =>
    rw [withCondition, Document.set_of_not_mem _ hnew, Document.names_append,
      List.mem_append] at hname
    exact hname.imp id fun hname => by simpa using hname

/-- Setting the condition on a new target adds the atoms of its operators. -/
theorem Represents.withCondition {input document result : Document} {atoms : List Atom}
    {pairs : List (String × String)} (h : Represents document result atoms pairs)
    {target : String} {several : List Contribution} {condition : Option Document}
    (hcondition : conditionOf input several = .ok condition)
    (hnew : target ∉ Document.names result) (htarget : isOperatorName target = false)
    (hmap : OperatorMap (groupOperators input several))
    (hdecided : ∀ atom ∈ operatorAtoms target (groupOperators input several),
      ∃ held, atom.accepts document = .ok held)
    (hpairs : ∀ operator ∈ Document.names (groupOperators input several),
      (target, operator) ∈ pairs) :
    Represents document (Params.withCondition result target condition)
      (atoms ++ operatorAtoms target (groupOperators input several)) pairs := by
  have heq : condition.getD [] = groupOperators input several :=
    conditionOf_eq hcondition hmap.distinct
  cases condition with
  | none =>
    have hempty : groupOperators input several = [] := heq.symm
    have hnone : operatorAtoms target (groupOperators input several) = [] := by
      rw [hempty]
      rfl
    rw [hnone, List.append_nil]
    exact h
  | some operators =>
    obtain rfl : operators = groupOperators input several := heq
    refine (h.setPath htarget hnew hmap hdecided).mono ?_
    intro pair hpair
    rcases List.mem_append.1 hpair with hpair | hpair
    · exact hpair
    · rw [fieldPairs_path htarget] at hpair
      obtain ⟨operator, hoperator, rfl⟩ := List.mem_map.1 hpair
      exact hpairs operator hoperator

/-- Setting the conditions on new targets adds the atoms of their operators. -/
theorem Represents.fieldConditions {input document result fields : Document} {atoms : List Atom}
    {pairs : List (String × String)} (h : Represents document result atoms pairs)
    {groups : List (String × List Contribution)}
    (hfields : Params.fieldConditions input result groups = .ok fields)
    (hnew : ∀ group ∈ groups, group.1 ∉ Document.names result)
    (hdistinct : (groups.map Prod.fst).Nodup)
    (htargets : ∀ group ∈ groups, isOperatorName group.1 = false)
    (hmaps : ∀ group ∈ groups, OperatorMap (groupOperators input group.2))
    (hdecided : ∀ group ∈ groups, ∀ atom ∈ operatorAtoms group.1 (groupOperators input group.2),
      ∃ held, atom.accepts document = .ok held)
    (hpairs : ∀ group ∈ groups, ∀ operator ∈ Document.names (groupOperators input group.2),
      (group.1, operator) ∈ pairs) :
    Represents document fields
      (atoms ++ groups.flatMap fun group =>
        operatorAtoms group.1 (groupOperators input group.2)) pairs := by
  induction groups generalizing result atoms with
  | nil =>
    obtain rfl := Except.ok.inj hfields
    rw [List.flatMap_nil, List.append_nil]
    exact h
  | cons group rest ih =>
    obtain ⟨target, several⟩ := group
    rw [List.map_cons, List.nodup_cons] at hdistinct
    rw [List.forall_mem_cons] at hnew htargets hmaps hdecided hpairs
    obtain ⟨condition, hcondition, hrest⟩ := fieldConditions_cons hfields
    have hfirst := h.withCondition hcondition hnew.1 htargets.1 hmaps.1 hdecided.1 hpairs.1
    rw [List.flatMap_cons, ← List.append_assoc]
    refine ih hfirst hrest ?_ hdistinct.2 htargets.2 hmaps.2 hdecided.2 hpairs.2
    intro other hother hthere
    rcases mem_names_withCondition hnew.1 hthere with hthere | heq
    · exact hnew.2 other hother hthere
    · have hmem := List.mem_map_of_mem (f := Prod.fst) hother
      rw [heq] at hmem
      exact hdistinct.1 hmem

/-- A list without its repetitions has none. -/
theorem nodup_eraseDups (names : List String) : names.eraseDups.Nodup := by
  cases names with
  | nil => simp
  | cons name rest =>
    rw [List.eraseDups_cons, List.nodup_cons]
    refine ⟨?_, nodup_eraseDups _⟩
    rw [List.mem_eraseDups, List.mem_filter]
    simp
termination_by names.length
decreasing_by
  have hle := List.length_filter_le (fun other => !other == name) rest
  simp only [List.length_cons]
  omega

/-- The contributions to one target. -/
def contributionsTo (rules : RuleSet) (target : String) : List Contribution :=
  ((contributions rules).filter fun entry => entry.1 == target).map Prod.snd

/-- A contribution to a target is one of the rules to it. -/
theorem mem_contributionsTo {rules : RuleSet} {target : String} {contribution : Contribution} :
    contribution ∈ contributionsTo rules target ↔
      (target, contribution) ∈ contributions rules := by
  unfold contributionsTo
  simp [List.mem_map, List.mem_filter]

/-- A target stands alone if it has one contribution. -/
theorem length_contributionsTo (rules : RuleSet) (target : String) :
    ((contributionsTo rules target).length == 1) = standsAlone rules target := by
  unfold contributionsTo standsAlone
  rw [List.length_map]

/-- The groups are the targets with their contributions. -/
theorem mem_grouped {rules : RuleSet} {group : String × List Contribution} :
    group ∈ grouped rules ↔ (∃ contribution, (group.1, contribution) ∈ contributions rules) ∧
      group.2 = contributionsTo rules group.1 := by
  obtain ⟨target, several⟩ := group
  unfold grouped
  simp only [List.mem_map, List.mem_eraseDups, Prod.mk.injEq]
  constructor
  · rintro ⟨other, ⟨entry, hentry, rfl⟩, rfl, rfl⟩
    exact ⟨⟨entry.2, hentry⟩, rfl⟩
  · rintro ⟨⟨contribution, hcontribution⟩, rfl⟩
    exact ⟨target, ⟨_, hcontribution, rfl⟩, rfl, rfl⟩

/-- Each target has one group of contributions. -/
theorem nodup_grouped (rules : RuleSet) : ((grouped rules).map Prod.fst).Nodup := by
  have hnames : (grouped rules).map Prod.fst = ((contributions rules).map Prod.fst).eraseDups := by
    unfold grouped
    rw [List.map_map]
    exact List.map_id' _
  rw [hnames]
  exact nodup_eraseDups _

/-- The conditions can be set if there is one for each target. -/
theorem fieldConditions_isOk_iff {input : Document} {groups : List (String × List Contribution)}
    (result : Document) :
    (∃ fields, fieldConditions input result groups = .ok fields) ↔
      ∀ group ∈ groups, ∃ condition, conditionOf input group.2 = .ok condition := by
  induction groups generalizing result with
  | nil => simp [fieldConditions]
  | cons group rest ih =>
    rw [List.forall_mem_cons]
    unfold fieldConditions
    cases conditionOf input group.2 with
    | error error => simp
    | ok condition => cases condition <;> simp [ih]

/-- A new condition is looked up under its target, and every other name as before. -/
theorem get?_withCondition (result : Document) (target name : String)
    (condition : Option Document) :
    Document.get? (withCondition result target condition) name =
      if name = target then (condition.map Value.document).or (Document.get? result target)
      else Document.get? result name := by
  cases condition with
  | none =>
    by_cases hname : name = target
    · simp [withCondition, hname]
    · simp [withCondition, hname]
  | some operators => exact Document.get?_set result target name (.document operators)

/-- The conditions on distinct targets are looked up as they have been made, and any other name as
it was. -/
theorem get?_fieldConditions {input result fields : Document}
    {groups : List (String × List Contribution)}
    (hfields : fieldConditions input result groups = .ok fields)
    (hdistinct : (groups.map Prod.fst).Nodup) :
    (∀ name, name ∉ groups.map Prod.fst →
      Document.get? fields name = Document.get? result name) ∧
    ∀ target several, (target, several) ∈ groups → ∃ condition,
      conditionOf input several = .ok condition ∧
      Document.get? fields target =
        (condition.map Value.document).or (Document.get? result target) := by
  induction groups generalizing result with
  | nil =>
    obtain rfl := Except.ok.inj hfields
    simp
  | cons group rest ih =>
    obtain ⟨first, contributions⟩ := group
    rw [List.map_cons, List.nodup_cons] at hdistinct
    obtain ⟨condition, hcondition, hrest⟩ := fieldConditions_cons hfields
    obtain ⟨hother, htargets⟩ := ih hrest hdistinct.2
    refine ⟨fun name hname => ?_, fun target several hmem => ?_⟩
    · rw [List.map_cons, List.mem_cons, not_or] at hname
      rw [hother name hname.2, get?_withCondition, if_neg hname.1]
    · rcases List.mem_cons.1 hmem with heq | hmemRest
      · obtain ⟨rfl, rfl⟩ := Prod.mk.inj heq
        refine ⟨condition, hcondition, ?_⟩
        rw [hother target hdistinct.1, get?_withCondition, if_pos rfl]
      · obtain ⟨condition', hcondition', hfound⟩ := htargets target several hmemRest
        have hne : target ≠ first := by
          rintro rfl
          exact hdistinct.1 (List.mem_map.2 ⟨_, hmemRest, rfl⟩)
        refine ⟨condition', hcondition', ?_⟩
        rw [hfound, get?_withCondition, if_neg hne]

/-- The targets are the names to which something is contributed. -/
theorem mem_targets_iff {rules : RuleSet} {target : String} :
    target ∈ (grouped rules).map Prod.fst ↔ contributionsTo rules target ≠ [] := by
  rw [List.mem_map]
  constructor
  · rintro ⟨group, hgroup, rfl⟩
    obtain ⟨⟨contribution, hcontribution⟩, -⟩ := mem_grouped.1 hgroup
    exact List.ne_nil_of_mem (mem_contributionsTo.2 hcontribution)
  · intro hne
    obtain ⟨contribution, hcontribution⟩ := List.exists_mem_of_ne_nil _ hne
    exact ⟨(target, contributionsTo rules target),
      mem_grouped.2 ⟨⟨contribution, mem_contributionsTo.1 hcontribution⟩, rfl⟩, rfl⟩

/-- The field rules succeed if the contributions to each name make a condition, or none. -/
theorem fieldConditions_grouped_isOk_iff {rules : RuleSet} {input : Document} :
    (∃ fields, fieldConditions input [] (grouped rules) = .ok fields) ↔
      ∀ target, ∃ condition, conditionOf input (contributionsTo rules target) = .ok condition := by
  rw [fieldConditions_isOk_iff]
  constructor
  · intro hall target
    by_cases hnone : contributionsTo rules target = []
    · rw [hnone]
      exact ⟨none, rfl⟩
    · obtain ⟨group, hgroup, rfl⟩ := List.mem_map.1 (mem_targets_iff.2 hnone)
      rw [← (mem_grouped.1 hgroup).2]
      exact hall group hgroup
  · intro hall group hgroup
    rw [(mem_grouped.1 hgroup).2]
    exact hall group.1

/-- What the field rules have set under a name is the condition that the contributions to it
make. -/
theorem get?_fieldConditions_grouped {rules : RuleSet} {input fields : Document}
    (hfields : fieldConditions input [] (grouped rules) = .ok fields) (name : String) :
    ∃ condition, conditionOf input (contributionsTo rules name) = .ok condition ∧
      Document.get? fields name = condition.map Value.document := by
  obtain ⟨hother, htargets⟩ := get?_fieldConditions hfields (nodup_grouped rules)
  by_cases hnone : contributionsTo rules name = []
  · refine ⟨none, by rw [hnone]; rfl, ?_⟩
    rw [hother name fun hmem => mem_targets_iff.1 hmem hnone]
    rfl
  · obtain ⟨⟨target, several⟩, hgroup, rfl⟩ := List.mem_map.1 (mem_targets_iff.2 hnone)
    obtain ⟨condition, hcondition, hfound⟩ := htargets target several hgroup
    obtain rfl : several = contributionsTo rules target := (mem_grouped.1 hgroup).2
    refine ⟨condition, hcondition, ?_⟩
    rw [hfound, Document.get?_nil, Option.or_none]

/-- The operators that the contributions to one target add have distinct names, if no operator is
contributed to a field twice. -/
theorem nodup_groupOperators {rules : RuleSet} {input : Document}
    (hdistinct : (contributedPairs rules input).Nodup) (target : String) :
    (Document.names (groupOperators input (contributionsTo rules target))).Nodup := by
  have hgroup : (Document.names (groupOperators input (contributionsTo rules target))).map
      (fun operator => (target, operator)) =
        ((contributions rules).filter fun entry => entry.1 == target).flatMap fun entry =>
          (Document.names (entry.2.entries input (standsAlone rules entry.1))).map fun operator =>
            (entry.1, operator) := by
    unfold groupOperators Document.names
    rw [length_contributionsTo, contributionsTo, List.flatMap_map, List.map_flatMap,
      List.map_flatMap]
    refine List.flatMap_congr fun entry hentry => ?_
    have htarget : entry.1 = target := by simpa using (List.mem_filter.1 hentry).2
    rw [htarget]
  have hsub : ((Document.names (groupOperators input (contributionsTo rules target))).map
      fun operator => (target, operator)).Sublist (contributedPairs rules input) := by
    rw [hgroup]
    exact List.filter_sublist.flatMap _
  exact (hdistinct.sublist hsub).of_map

/-- The operators of a contribution to a target are among all that are contributed. -/
theorem mem_contributedPairs {rules : RuleSet} {input : Document} {target operator : String}
    (h : operator ∈ Document.names (groupOperators input (contributionsTo rules target))) :
    (target, operator) ∈ contributedPairs rules input := by
  unfold groupOperators at h
  rw [length_contributionsTo] at h
  obtain ⟨field, hfield, rfl⟩ := List.mem_map.1 h
  obtain ⟨contribution, hcontribution, hfield⟩ := List.mem_flatMap.1 hfield
  refine List.mem_flatMap.2 ⟨(target, contribution), mem_contributionsTo.1 hcontribution, ?_⟩
  exact List.mem_map_of_mem (Document.mem_names_of_mem hfield)

section Grouped

variable {rules : RuleSet} {input document : Document}

/-- An atom is asked for by a contribution to its target. -/
theorem mem_contributedAtoms_iff {atom : Atom} :
    atom ∈ contributedAtoms rules input ↔ ∃ target contribution,
      (target, contribution) ∈ contributions rules ∧
        contributedAtom? input (standsAlone rules target) target contribution = some atom := by
  unfold contributedAtoms
  rw [List.mem_filterMap]
  constructor
  · rintro ⟨⟨target, contribution⟩, hentry, hatom⟩
    exact ⟨target, contribution, hentry, hatom⟩
  · rintro ⟨target, contribution, hentry, hatom⟩
    exact ⟨(target, contribution), hentry, hatom⟩

/-- The contributions to a target add a map of operators, with the atoms that they ask for. -/
theorem contributionsTo_operatorMap {target : String} (htarget : isOperatorName target = false)
    (hnamed : ∀ contribution ∈ contributionsTo rules target,
      isOperatorName contribution.operator = true)
    (hdistinct : (contributedPairs rules input).Nodup)
    (hdecided : ∀ atom ∈ contributedAtoms rules input, ∃ held, atom.accepts document = .ok held) :
    OperatorMap (groupOperators input (contributionsTo rules target)) ∧
      operatorAtoms target (groupOperators input (contributionsTo rules target)) =
        (contributionsTo rules target).filterMap
          (contributedAtom? input (standsAlone rules target) target) := by
  have hnodup := nodup_groupOperators hdistinct target
  unfold groupOperators at hnodup ⊢
  rw [length_contributionsTo] at hnodup ⊢
  refine flatMap_entries_operatorMap target hnamed ?_ hnodup
  rintro contribution hcontribution operand hoperand hoptions
  -- The atom of options without a pattern would come to no truth value.
  have hatom : contributedAtom? input (standsAlone rules target) target contribution =
      some (.condition target opOptions operand none) := by
    rw [contributedAtom?, hoperand, hoptions]
    rfl
  have hasked := mem_contributedAtoms_iff.2
    ⟨target, contribution, mem_contributionsTo.1 hcontribution, hatom⟩
  exact not_decided_of_options htarget operand document (hdecided _ hasked)

/-- The conditions on all targets stand for the atoms of the contributions. -/
theorem fieldConditions_represents {fields : Document}
    (hfields : fieldConditions input [] (grouped rules) = .ok fields)
    (hrules : ∀ entry ∈ contributions rules,
      isOperatorName entry.1 = false ∧ isOperatorName entry.2.operator = true)
    (hdistinct : (contributedPairs rules input).Nodup)
    (hdecided : ∀ atom ∈ contributedAtoms rules input, ∃ held, atom.accepts document = .ok held) :
    Represents document fields (contributedAtoms rules input) (contributedPairs rules input) := by
  have htargets : ∀ group ∈ grouped rules, isOperatorName group.1 = false := by
    intro group hmem
    obtain ⟨⟨first, hfirst⟩, -⟩ := mem_grouped.1 hmem
    exact (hrules _ hfirst).1
  have hgroup : ∀ group ∈ grouped rules,
      OperatorMap (groupOperators input group.2) ∧
        operatorAtoms group.1 (groupOperators input group.2) =
          (contributionsTo rules group.1).filterMap
            (contributedAtom? input (standsAlone rules group.1) group.1) := by
    intro group hmem
    rw [(mem_grouped.1 hmem).2]
    refine contributionsTo_operatorMap (htargets group hmem) ?_ hdistinct hdecided
    exact fun contribution hcontribution => (hrules _ (mem_contributionsTo.1 hcontribution)).2
  have hatoms : ∀ atom, (∃ group ∈ grouped rules,
      atom ∈ operatorAtoms group.1 (groupOperators input group.2)) ↔
        atom ∈ contributedAtoms rules input := by
    intro atom
    rw [mem_contributedAtoms_iff]
    constructor
    · rintro ⟨group, hmem, hatom⟩
      rw [(hgroup group hmem).2] at hatom
      obtain ⟨contribution, hcontribution, hatom⟩ := List.mem_filterMap.1 hatom
      exact ⟨group.1, contribution, mem_contributionsTo.1 hcontribution, hatom⟩
    · rintro ⟨target, contribution, hentry, hatom⟩
      have hmem : (target, contributionsTo rules target) ∈ grouped rules :=
        mem_grouped.2 ⟨⟨contribution, hentry⟩, rfl⟩
      refine ⟨_, hmem, ?_⟩
      rw [(hgroup _ hmem).2]
      exact List.mem_filterMap.2 ⟨contribution, mem_contributionsTo.2 hentry, hatom⟩
  have hrepresents := (Represents.empty document (contributedPairs rules input)).fieldConditions
    hfields (by simp) (nodup_grouped rules) htargets (fun group hmem => (hgroup group hmem).1)
    (fun group hmem atom hatom => hdecided atom ((hatoms atom).1 ⟨group, hmem, hatom⟩)) ?_
  · refine hrepresents.congr ?_
    rw [List.nil_append]
    simp only [← hatoms, List.mem_flatMap]
  · intro group hmem operator hoperator
    rw [(mem_grouped.1 hmem).2] at hoperator
    exact mem_contributedPairs hoperator

end Grouped

end VersionedStore.Params
