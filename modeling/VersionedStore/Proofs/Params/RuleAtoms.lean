import VersionedStore.Proofs.Params.FieldRules

/-!
# What field rules ask for

A field rule whose key is in the input asks for one atom on each field that it targets: its
operator, with the operand that it takes from the input.  That is read off the rules here, and the
contributions into which a compilation takes them apart ask for the same atoms, in the same order.

* `FieldRule.operand?`: the operand that a rule takes from the input.
* `timesTargeted`: how many times rules target a field.
* `ruleAtoms`, `rulePairs`: what the field rules of a rule set ask for.
* `ruleAtoms_eq`, `rulePairs_eq`: the contributions ask for the same.
-/

set_option autoImplicit false

namespace VersionedStore

/-- The operand that a field rule takes from the input: the value under its key as it is, or what
its converter makes of the text there. -/
def FieldRule.operand? (rule : FieldRule) (input : Document) (key : String) : Option Value :=
  match Document.get? input key, rule.convert with
  | some raw, none => some raw
  | some (.string text), some convert => (convert text).toOption
  | _, _ => none

namespace Params

/-- How many times the field rules of a rule set target a field. -/
def timesTargeted (rules : RuleSet) (target : String) : ℕ :=
  (rules.entries.flatMap fun entry =>
    match entry.2 with
    | .field rule => rule.targets
    | .dynamic _ => []).count target

/-- Whether a rule says nothing about a target: null stands for no list of members if the rule is
the only one with that target. -/
def SaysNothingOf (rules : RuleSet) (operator target : String) (operand : Value) : Prop :=
  timesTargeted rules target = 1 ∧ (operator = "$in" ∨ operator = "$nin") ∧ operand.kind = .null

/-- Whether an operand is left out is seen from the operand and the other rules. -/
instance (rules : RuleSet) (operator target : String) (operand : Value) :
    Decidable (SaysNothingOf rules operator target operand) :=
  inferInstanceAs (Decidable (_ ∧ _ ∧ _))

/-- The atoms that a field rule asks for, one for each of its targets of which it says something.  A
pattern ignores letter case. -/
def atomsOfRule (rules : RuleSet) (input : Document) (key : String) (rule : FieldRule) :
    List Atom :=
  match rule.operand? input key with
  | none => []
  | some operand =>
    (rule.targets.filter fun target =>
        decide (¬ SaysNothingOf rules rule.operator target operand)).map fun target =>
      .condition target rule.operator operand
        (if rule.operator = "$regex" then some (.string "i") else none)

/-- The atoms that the field rules of a rule set ask for. -/
def ruleAtoms (rules : RuleSet) (input : Document) : List Atom :=
  rules.entries.flatMap fun entry =>
    match entry.2 with
    | .field rule => atomsOfRule rules input entry.1 rule
    | .dynamic _ => []

/-- The operators of an atom, each with its field. -/
def Atom.pairs : Atom → List (String × String)
  | .condition field operator _ none => [(field, operator)]
  | .condition field operator _ (some _) => [(field, operator), (field, "$options")]
  | .group _ _ => []

/-- The operators that the field rules of a rule set put on fields. -/
def rulePairs (rules : RuleSet) (input : Document) : List (String × String) :=
  (ruleAtoms rules input).flatMap Atom.pairs

/-- The contributions to a target are as many as the rules target it times. -/
theorem length_filter_contributions (rules : RuleSet) (target : String) :
    ((contributions rules).filter fun entry => entry.1 == target).length =
      timesTargeted rules target := by
  unfold contributions timesTargeted
  rw [← List.countP_eq_length_filter, List.count_eq_countP, List.countP_flatMap, List.countP_flatMap]
  refine congrArg List.sum (List.map_congr_left fun entry _ => ?_)
  obtain ⟨key, rule⟩ := entry
  cases rule with
  | dynamic expand => rfl
  | field rule =>
    simp only [Function.comp_apply, List.countP_map]
    rfl

/-- A target stands alone exactly if it is targeted once. -/
theorem standsAlone_iff (rules : RuleSet) (target : String) :
    standsAlone rules target = true ↔ timesTargeted rules target = 1 := by
  unfold standsAlone
  rw [length_filter_contributions, beq_iff_eq]

/-- The contribution of a rule to a target reads the parameter as the rule does. -/
theorem operandOf_contribution (input : Document) (key : String) (rule : FieldRule) :
    rule.operand? input key = (Document.get? input key).bind fun raw =>
      (operandOf ⟨key, rule.operator, rule.convert⟩ raw).toOption := by
  unfold FieldRule.operand? operandOf
  cases Document.get? input key with
  | none => rfl
  | some raw =>
    cases rule.convert with
    | none => rfl
    | some convert =>
      cases raw with
      | string text =>
        simp only [convertText, Option.bind_some]
        cases convert text <;> rfl
      | _ => rfl

/-- The operand that the contribution of a rule to a target gives is the one that the rule takes
from the input, unless the rule says nothing of the target. -/
theorem operand?_contribution (rules : RuleSet) (input : Document) (key target : String)
    (rule : FieldRule) :
    Contribution.operand? input (standsAlone rules target) ⟨key, rule.operator, rule.convert⟩ =
      (rule.operand? input key).filter fun operand =>
        decide (¬ SaysNothingOf rules rule.operator target operand) := by
  rw [operandOf_contribution]
  unfold Contribution.operand?
  cases Document.get? input key with
  | none => rfl
  | some raw =>
    rw [Option.bind_some]
    rcases hoperand : operandOf ⟨key, rule.operator, rule.convert⟩ raw with error | operand
    · simp only [hoperand]
      rfl
    · simp only [hoperand, standsAlone_iff, Except.toOption, Option.filter_some,
        decide_eq_true_eq, ite_not]
      rfl

/-- The contributions of a rule to its targets ask for the atoms of the rule. -/
theorem filterMap_contributions (rules : RuleSet) (input : Document) (key : String)
    (rule : FieldRule) :
    (rule.targets.filterMap fun target => contributedAtom? input (standsAlone rules target) target
        ⟨key, rule.operator, rule.convert⟩) = atomsOfRule rules input key rule := by
  unfold contributedAtom? atomsOfRule
  simp only [operand?_contribution]
  cases rule.operand? input key with
  | none => simp
  | some operand =>
    show _ = List.map _ (List.filter _ rule.targets)
    rw [← List.filterMap_eq_map, List.filterMap_filter]
    refine List.filterMap_congr fun target _ => ?_
    by_cases hnothing : SaysNothingOf rules rule.operator target operand
    · simp [Option.filter_some, hnothing]
    · simp only [Option.filter_some, hnothing, not_false_eq_true, decide_true, if_true,
        Option.map_some]
      rfl

/-- The contributions ask for the atoms of the rules, in the same order. -/
theorem ruleAtoms_eq (rules : RuleSet) (input : Document) :
    ruleAtoms rules input = contributedAtoms rules input := by
  unfold ruleAtoms contributedAtoms contributions
  rw [List.filterMap_flatMap]
  refine List.flatMap_congr fun entry _ => ?_
  obtain ⟨key, rule⟩ := entry
  cases rule with
  | dynamic expand => rfl
  | field rule =>
    simp only [List.filterMap_map]
    exact (filterMap_contributions rules input key rule).symm

/-- The operators of the atom of a contribution are those that it adds to its target. -/
theorem pairs_contributedAtom? (input : Document) (alone : Bool) (target : String)
    (contribution : Contribution) :
    (contributedAtom? input alone target contribution).toList.flatMap Atom.pairs =
      (Document.names (contribution.entries input alone)).map fun operator =>
        (target, operator) := by
  unfold contributedAtom? Contribution.entries
  cases contribution.operand? input alone with
  | none => rfl
  | some operand =>
    by_cases hpattern : contribution.operator = opPattern
    · simp only [hpattern, Option.map_some, if_pos, addOperand_pattern]
      rfl
    · simp only [hpattern, Option.map_some, if_false, addOperand_of_ne hpattern]
      rfl

/-- The operators that are contributed are those of the rules, in the same order. -/
theorem rulePairs_eq (rules : RuleSet) (input : Document) :
    rulePairs rules input = contributedPairs rules input := by
  unfold rulePairs contributedPairs
  rw [ruleAtoms_eq, contributedAtoms, List.filterMap_eq_flatMap_toList, List.flatMap_assoc]
  refine List.flatMap_congr fun entry _ => ?_
  exact pairs_contributedAtom? input _ entry.1 entry.2

end Params

end VersionedStore
