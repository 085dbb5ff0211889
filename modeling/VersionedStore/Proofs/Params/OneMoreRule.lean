import VersionedStore.Proofs.Params.Compilation

/-!
# One more rule

A rule whose key is not in the input gives neither an operand nor a sub-filter.  It still counts
among the rules for its targets.  A target that had one other rule has several then, and its
operands are gathered as they are.  For one operand this makes a difference: a rule of membership
that stands alone takes null for no operand and refuses what is no array, and one that does not
stand alone takes either as its operand.

* `contributionsTo_insert`, `applyDynamic_insert`, `withoutRule_insert`: what a new rule adds to the
  rules there are.
* `AsksMembership`, `Exposed`: the operands for which it makes a difference.
* `gatherOperators_eq_conditionOf`: for others, gathering makes the same condition.
* `conditionOf_insert`: the condition on a target of the new rule.
-/

set_option autoImplicit false

namespace VersionedStore.Params

/-! ### One more rule -/

/-- The fields that a rule targets. -/
def targetsOf : Rule → List String
  | .field rule => rule.targets
  | .dynamic _ => []

/-- What a rule contributes to its targets. -/
def ruleContributions (key : String) : Rule → List (String × Contribution)
  | .field rule => rule.targets.map fun target => (target, ⟨key, rule.operator, rule.convert⟩)
  | .dynamic _ => []

/-- The contributions of a set of rules are those of its rules, one after the other. -/
theorem contributions_eq (rules : RuleSet) :
    contributions rules =
      rules.entries.flatMap fun entry => ruleContributions entry.1 entry.2 := by
  unfold contributions
  refine List.flatMap_congr fun entry _ => ?_
  obtain ⟨key, rule⟩ := entry
  cases rule <;> rfl

section Insert

variable {rules : RuleSet} {key : String}

/-- A valid rule leaves a valid rule set valid, and an invalid one invalid. -/
theorem validate_insert_iff (hkey : rules.contains key = false) {rule : Rule}
    (hrule : rule.fault? key = none) :
    RuleSet.validate (rules.insert key rule) = .ok () ↔ RuleSet.validate rules = .ok () := by
  obtain ⟨before, behind, hentries, hinsert⟩ := rules.entries_insert_of_absent rule hkey
  unfold RuleSet.validate
  rw [hinsert, hentries, List.findSome?_append, List.findSome?_append, List.findSome?_cons, hrule]

/-- The contributions of a new rule to a target come between those that are there. -/
theorem contributionsTo_insert (hkey : rules.contains key = false) (rule : Rule)
    (target : String) :
    ∃ before own behind, contributionsTo rules target = before ++ behind ∧
      contributionsTo (rules.insert key rule) target = before ++ (own ++ behind) ∧
      (∀ contribution ∈ own, contribution.key = key) ∧ (own = [] ↔ target ∉ targetsOf rule) := by
  obtain ⟨before, behind, hentries, hinsert⟩ := rules.entries_insert_of_absent rule hkey
  unfold contributionsTo
  rw [contributions_eq, contributions_eq, hentries, hinsert, List.flatMap_append,
    List.flatMap_append, List.flatMap_cons, List.filter_append, List.filter_append,
    List.filter_append, List.map_append, List.map_append, List.map_append]
  refine ⟨_, _, _, rfl, rfl, ?_, ?_⟩
  · intro contribution hcontribution
    obtain ⟨entry, hentry, rfl⟩ := List.mem_map.1 hcontribution
    have hmem := (List.mem_filter.1 hentry).1
    cases rule with
    | field rule =>
      obtain ⟨other, -, rfl⟩ := List.mem_map.1 hmem
      rfl
    | dynamic expand => simp [ruleContributions] at hmem
  · cases rule with
    | field rule =>
      simp only [ruleContributions, targetsOf, List.map_eq_nil_iff, List.filter_eq_nil_iff,
        List.forall_mem_map, beq_iff_eq]
      exact ⟨fun hall hmem => hall target hmem rfl,
        fun hnot other hother heq => hnot (heq ▸ hother)⟩
    | dynamic expand => simp [ruleContributions, targetsOf]

/-- A dynamic rule whose key is absent is passed over. -/
theorem applyDynamic_skip {input : Document} (habsent : Document.get? input key = none)
    (expand : Expansion) (result : Document) (before behind : List (String × Expansion)) :
    applyDynamic input result (before ++ (key, expand) :: behind) =
      applyDynamic input result (before ++ behind) := by
  induction before generalizing input result with
  | nil =>
    rw [List.nil_append, applyDynamic, habsent]
    rfl
  | cons rule rest ih =>
    obtain ⟨other, otherExpand⟩ := rule
    rw [List.cons_append, List.cons_append, applyDynamic, applyDynamic]
    cases Document.get? input other with
    | none => exact ih habsent result
    | some raw =>
      cases hconverted : convertText other raw otherExpand with
      | error error => simp only [hconverted]
      | ok subFilter =>
        have herased : Document.get? (Document.erase input other) key = none := by
          rw [Document.get?_erase, habsent, ite_self]
        simp only [hconverted]
        exact ih herased _

/-- A new rule whose key is absent changes nothing about what the dynamic rules do. -/
theorem applyDynamic_insert {input : Document} (hkey : rules.contains key = false)
    (habsent : Document.get? input key = none) (rule : Rule) (result : Document) :
    applyDynamic input result (dynamicRules (rules.insert key rule)) =
      applyDynamic input result (dynamicRules rules) := by
  obtain ⟨before, behind, hentries, hinsert⟩ := rules.entries_insert_of_absent rule hkey
  unfold dynamicRules
  rw [hinsert, hentries, List.filterMap_append, List.filterMap_append, List.filterMap_cons]
  cases rule with
  | field rule => rfl
  | dynamic expand => exact applyDynamic_skip habsent expand result _ _

/-- A new rule whose key is absent leaves the parameters that have no rule. -/
theorem withoutRule_insert {input : Document} (habsent : Document.get? input key = none)
    (rule : Rule) : withoutRule (rules.insert key rule) input = withoutRule rules input := by
  unfold withoutRule
  refine List.filter_congr fun field hfield => ?_
  have hne : field.1 ≠ key := by
    intro heq
    exact (Document.get?_eq_none_iff input key).1 habsent
      (heq ▸ Document.mem_names_of_mem hfield)
  unfold NameMap.contains
  rw [NameMap.get?_insert_of_ne rules rule hne]

end Insert

/-! ### A rule of membership that stands alone -/

/-- Of some contributions there is one only, which asks for membership and gives an operand. -/
structure AsksMembership (input : Document) (several : List Contribution) (operator : String)
    (operand : Value) : Prop where
  membership : operator = opIn ∨ operator = opNotIn
  alone : ∃ contribution raw, several = [contribution] ∧ contribution.operator = operator ∧
    Document.get? input contribution.key = some raw ∧ operandOf contribution raw = .ok operand

section Gathered

variable {input : Document} {several : List Contribution}

/-- Operators are gathered from some contributions and then from others. -/
theorem gatherOperators_append (condition : Option Document) (before behind : List Contribution) :
    gatherOperators input condition (before ++ behind) =
      gatherOperators input condition before >>= fun gathered =>
        gatherOperators input gathered behind := by
  induction before generalizing condition with
  | nil => rfl
  | cons contribution rest ih =>
    rw [List.cons_append, gatherOperators, gatherOperators]
    cases Document.get? input contribution.key with
    | none => exact ih condition
    | some raw =>
      cases hoperand : operandOf contribution raw with
      | error error =>
        simp only [hoperand]
        rfl
      | ok operand =>
        simp only [hoperand]
        exact ih _

/-- Contributions whose keys are absent are passed over. -/
theorem gatherOperators_skip {own : List Contribution}
    (habsent : ∀ contribution ∈ own, Document.get? input contribution.key = none)
    (condition : Option Document) (before behind : List Contribution) :
    gatherOperators input condition (before ++ (own ++ behind)) =
      gatherOperators input condition (before ++ behind) := by
  have hown : ∀ gathered, gatherOperators input gathered (own ++ behind) =
      gatherOperators input gathered behind := by
    intro gathered
    rw [gatherOperators_append, gatherOperators_of_absent habsent]
    rfl
  simp only [gatherOperators_append condition before, hown]

/-- The operands of one contribution, or of none, are gathered if it is not treated in its own
way. -/
theorem conditionOf_of_length_ne_one (h : several.length ≠ 1) :
    conditionOf input several = gatherOperators input none several := by
  match several, h with
  | [], _ => rfl
  | [contribution], h => exact absurd rfl h
  | first :: second :: rest, _ => rfl

namespace AsksMembership

variable {operator : String} {operand : Value}

/-- Among other contributions, the operand is taken as it is. -/
theorem gathered (h : AsksMembership input several operator operand) :
    gatherOperators input none several = .ok (some [(operator, operand)]) := by
  obtain ⟨hmembership, contribution, raw, rfl, rfl, hraw, hoperand⟩ := h
  have hpattern : contribution.operator ≠ opPattern := by
    rintro hpattern
    rw [hpattern] at hmembership
    exact absurd hmembership (by decide)
  simp only [gatherOperators, hraw, hoperand, addOperand_of_ne hpattern]
  rfl

/-- The condition, if the contribution stands alone. -/
theorem conditionOf_eq (h : AsksMembership input several operator operand) :
    ∃ contribution : Contribution, contribution.operator = operator ∧
      conditionOf input several = (singleOperator contribution operand).map some := by
  obtain ⟨-, contribution, raw, rfl, hoperator, hraw, hoperand⟩ := h
  refine ⟨contribution, hoperator, ?_⟩
  simp only [conditionOf, hraw, hoperand, bind, Except.bind]
  cases singleOperator contribution operand <;> rfl

/-- On its own, null is no operand. -/
theorem conditionOf_null (h : AsksMembership input several operator .null) :
    conditionOf input several = .ok (some []) := by
  obtain ⟨contribution, hoperator, hcondition⟩ := h.conditionOf_eq
  rw [hcondition, singleOperator, if_pos (hoperator ▸ h.membership)]
  rfl

/-- On its own, an operand that is not refused is null or an array. -/
theorem operand_of_ok (h : AsksMembership input several operator operand)
    {condition : Option Document} (hok : conditionOf input several = .ok condition) :
    operand = .null ∨ ∃ items, operand = .array items := by
  obtain ⟨contribution, hoperator, hcondition⟩ := h.conditionOf_eq
  rw [hcondition] at hok
  unfold singleOperator at hok
  rw [if_pos (hoperator ▸ h.membership)] at hok
  cases operand with
  | null => exact .inl rfl
  | array items => exact .inr ⟨items, rfl⟩
  | _ => simp [Except.map] at hok

end AsksMembership

/-- Gathering makes the same condition, unless membership is asked for with an operand that is no
array. -/
theorem gatherOperators_eq_conditionOf
    (harrays : ∀ operator operand, AsksMembership input several operator operand →
      ∃ items, operand = .array items) :
    gatherOperators input none several = conditionOf input several := by
  by_cases hlength : several.length = 1
  · obtain ⟨contribution, rfl⟩ := List.length_eq_one_iff.1 hlength
    rw [conditionOf]
    cases hraw : Document.get? input contribution.key with
    | none => simp only [gatherOperators, hraw]
    | some raw =>
      cases hoperand : operandOf contribution raw with
      | error error =>
        simp only [gatherOperators, hraw, hoperand]
        rfl
      | ok operand =>
        simp only [gatherOperators, hraw, hoperand, bind, Except.bind]
        by_cases hmembership : contribution.operator = opIn ∨ contribution.operator = opNotIn
        · have hasks : AsksMembership input [contribution] contribution.operator operand :=
            ⟨hmembership, contribution, raw, rfl, rfl, hraw, hoperand⟩
          obtain ⟨items, rfl⟩ := harrays _ _ hasks
          have hgathered := hasks.gathered
          simp only [gatherOperators, hraw, hoperand] at hgathered
          rw [hgathered, singleOperator, if_pos hmembership]
          rfl
        · unfold singleOperator
          rw [if_neg hmembership]
          rfl
  · exact (conditionOf_of_length_ne_one hlength).symm

/-- Gathering makes a condition where there is one. -/
theorem exists_gatherOperators {condition : Option Document}
    (h : conditionOf input several = .ok condition) :
    ∃ gathered, gatherOperators input none several = .ok gathered := by
  by_cases hasks : ∃ operator operand, AsksMembership input several operator operand
  · obtain ⟨operator, operand, hasks⟩ := hasks
    exact ⟨_, hasks.gathered⟩
  · refine ⟨condition, ?_⟩
    rw [← h]
    exact gatherOperators_eq_conditionOf fun operator operand hthis =>
      absurd ⟨operator, operand, hthis⟩ hasks

end Gathered

/-! ### The conditions on the targets -/

/-- A rule targets a field to which there was one contribution before.  That one asks for membership
and gives an operand, which is treated in its own way no longer. -/
def Exposed (rules : RuleSet) (input : Document) (rule : Rule) (target operator : String)
    (operand : Value) : Prop :=
  target ∈ targetsOf rule ∧
    AsksMembership input (contributionsTo rules target) operator operand

section Conditions

variable {rules : RuleSet} {key : String} {rule : Rule} {input : Document}

/-- On a target of a new rule whose key is absent, the operands of the other rules are gathered. -/
theorem conditionOf_insert (hkey : rules.contains key = false)
    (habsent : Document.get? input key = none) {target : String}
    (htarget : target ∈ targetsOf rule) :
    conditionOf input (contributionsTo (rules.insert key rule) target) =
      gatherOperators input none (contributionsTo rules target) := by
  obtain ⟨before, own, behind, hbefore, hinsert, hown, hnone⟩ :=
    contributionsTo_insert hkey rule target
  have hskipped : ∀ contribution ∈ own, Document.get? input contribution.key = none := by
    intro contribution hcontribution
    rw [hown contribution hcontribution]
    exact habsent
  rw [hinsert, hbefore, ← gatherOperators_skip hskipped]
  by_cases hempty : before ++ behind = []
  · obtain ⟨rfl, rfl⟩ := List.append_eq_nil_iff.1 hempty
    rw [List.nil_append, List.append_nil, conditionOf_of_absent hskipped,
      gatherOperators_of_absent hskipped]
  · refine conditionOf_of_length_ne_one ?_
    have hrest := List.length_pos_iff.2 hempty
    have hnew := List.length_pos_iff.2 fun hnil => hnone.1 hnil htarget
    simp only [List.length_append] at hrest ⊢
    omega

/-- On any other name, a new rule changes nothing. -/
theorem contributionsTo_insert_of_not_target (hkey : rules.contains key = false) {target : String}
    (htarget : target ∉ targetsOf rule) :
    contributionsTo (rules.insert key rule) target = contributionsTo rules target := by
  obtain ⟨before, own, behind, hbefore, hinsert, -, hnone⟩ :=
    contributionsTo_insert hkey rule target
  rw [hinsert, hbefore, hnone.2 htarget, List.nil_append]

/-- A new rule whose key is absent leaves the condition on a name if no operand is exposed there
but arrays. -/
theorem conditionOf_insert_of_arrays (hkey : rules.contains key = false)
    (habsent : Document.get? input key = none) {target : String}
    (harrays : ∀ operator operand, Exposed rules input rule target operator operand →
      ∃ items, operand = .array items) :
    conditionOf input (contributionsTo (rules.insert key rule) target) =
      conditionOf input (contributionsTo rules target) := by
  by_cases htarget : target ∈ targetsOf rule
  · rw [conditionOf_insert hkey habsent htarget]
    exact gatherOperators_eq_conditionOf fun operator operand hasks =>
      harrays operator operand ⟨htarget, hasks⟩
  · rw [contributionsTo_insert_of_not_target hkey htarget]

/-- Where there is a condition, there is one with the new rule. -/
theorem exists_conditionOf_insert (hkey : rules.contains key = false)
    (habsent : Document.get? input key = none) {target : String} {condition : Option Document}
    (h : conditionOf input (contributionsTo rules target) = .ok condition) :
    ∃ condition', conditionOf input (contributionsTo (rules.insert key rule) target) =
      .ok condition' := by
  by_cases htarget : target ∈ targetsOf rule
  · rw [conditionOf_insert hkey habsent htarget]
    exact exists_gatherOperators h
  · rw [contributionsTo_insert_of_not_target hkey htarget]
    exact ⟨condition, h⟩

/-- Where there is a condition with the new rule, there was one, unless an operand is exposed that
is neither null nor an array. -/
theorem exists_conditionOf_of_insert (hkey : rules.contains key = false)
    (habsent : Document.get? input key = none) {target : String} {condition' : Option Document}
    (h : conditionOf input (contributionsTo (rules.insert key rule) target) = .ok condition')
    (hallowed : ∀ operator operand, Exposed rules input rule target operator operand →
      operand = .null ∨ ∃ items, operand = .array items) :
    ∃ condition, conditionOf input (contributionsTo rules target) = .ok condition := by
  by_cases hnull : ∃ operator, Exposed rules input rule target operator .null
  · obtain ⟨operator, -, hasks⟩ := hnull
    exact ⟨_, hasks.conditionOf_null⟩
  · refine ⟨condition', ?_⟩
    rw [← h]
    refine (conditionOf_insert_of_arrays hkey habsent fun operator operand hexposed => ?_).symm
    refine (hallowed operator operand hexposed).resolve_left ?_
    rintro rfl
    exact hnull ⟨operator, hexposed⟩

end Conditions

end VersionedStore.Params
