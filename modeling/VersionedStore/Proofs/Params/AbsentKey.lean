import VersionedStore.Proofs.Params.OneMoreRule

/-!
# Rules whose keys are absent

A compilation with a rule whose key is not in the input is compared to the one without this rule.
The filters have the same conditions, in another order perhaps, but for the targets on which the new
rule stands beside a rule of membership: that one has null as its operand then.

* `NullsShown`: two filters that differ in nulls as operands of membership only.
* `NullsShown.mergeField`, `NullsShown.mergeFilter`: merging filters keeps this relation.
* `fieldConditions_insert`: with the new rule, the field rules show nulls.
* `compile_insert_absent`: the compilation with the new rule and the one without.
-/

set_option autoImplicit false

namespace VersionedStore.Params

/-! ### Filters that differ in nulls -/

/-- The names on which filters may differ of which one shows nulls: those on which it does, and
those of groups if it does on one of them. -/
def Touched (shown : String → String → Prop) (name : String) : Prop :=
  (∃ operator, shown name operator) ∨
    (name = opAll ∨ name = opAny) ∧
      ((∃ operator, shown opAll operator) ∨ ∃ operator, shown opAny operator)

/-- The names of groups are touched if nulls are shown in one of the groups. -/
theorem touched_group_iff {shown : String → String → Prop} {name : String}
    (hgroup : name = opAll ∨ name = opAny) :
    Touched shown name ↔ (∃ operator, shown opAll operator) ∨ ∃ operator, shown opAny operator := by
  unfold Touched
  rcases hgroup with rfl | rfl <;> tauto

/-- The second filter has null as the operand of some operators besides, in front of the other
operators on the same field.  On other names the filters agree. -/
structure NullsShown (shown : String → String → Prop) (result result' : Document) : Prop where
  elsewhere : ∀ name, ¬ Touched shown name →
    Document.get? result' name = Document.get? result name
  distinct : ∀ name operator, shown name operator → ¬ (name = opAll ∨ name = opAny) →
    (Document.names (operatorsAt result name)).Nodup
  there : ∀ name operator, shown name operator → ¬ (name = opAll ∨ name = opAny) →
    Document.get? result' name =
      some (.document (Document.setAll [(operator, .null)] (operatorsAt result name)))

namespace NullsShown

variable {shown : String → String → Prop} {result result' : Document}

/-- A field that is merged into both filters comes behind the nulls. -/
theorem mergeField (h : NullsShown shown result result') (name : String) (condition : Value) :
    NullsShown shown (Params.mergeField result name condition)
      (Params.mergeField result' name condition) := by
  have helsewhere : ∀ other, ¬ Touched shown other →
      Document.get? (Params.mergeField result' name condition) other =
        Document.get? (Params.mergeField result name condition) other := by
    intro other hother
    by_cases htouched : Touched shown name
    · -- The field is not looked up under another name than its own and those of groups.
      have hne : other ≠ name := by
        rintro rfl
        exact hother htouched
      have hgroup : name = opAll ∨ name = opAny → other ≠ opAll := by
        rintro hname rfl
        exact hother ((touched_group_iff (.inl rfl)).2 ((touched_group_iff hname).1 htouched))
      rw [get?_mergeField_of_ne _ _ hne hgroup, get?_mergeField_of_ne _ _ hne hgroup]
      exact h.elsewhere other hother
    · refine get?_mergeField_congr condition (h.elsewhere name htouched) (fun hname => ?_)
        (h.elsewhere other hother)
      refine h.elsewhere opAll fun hall => htouched ?_
      exact (touched_group_iff hname).2 ((touched_group_iff (.inl rfl)).1 hall)
  have hother : ∀ other, ¬ (other = opAll ∨ other = opAny) → other ≠ name →
      ∀ document, Document.get? (Params.mergeField document name condition) other =
        Document.get? document other := fun other hpath hne document =>
    get?_mergeField_of_ne document condition hne fun _ hall => hpath (.inl hall)
  have hself : ∀ document, ¬ (name = opAll ∨ name = opAny) →
      Document.get? (Params.mergeField document name condition) name =
        some (.document
          (Document.setAll (operatorsAt document name) (operatorsOf condition))) := by
    intro document hpath
    rw [mergeField_of_not_group document hpath, Document.get?_set_self]
  refine ⟨helsewhere, ?_, ?_⟩
  · intro other operator hshown hpath
    by_cases heq : other = name
    · subst heq
      rw [operatorsAt_of_get? (hself result hpath)]
      exact Document.nodup_names_setAll _ (h.distinct other operator hshown hpath)
    · rw [operatorsAt, hother other hpath heq]
      exact h.distinct other operator hshown hpath
  · intro other operator hshown hpath
    by_cases heq : other = name
    · subst heq
      have hnodup := h.distinct other operator hshown hpath
      have hthere := h.there other operator hshown hpath
      rw [hself result' hpath, operatorsAt_of_get? hthere, operatorsAt_of_get? (hself result hpath)]
      exact congrArg (fun operators => some (Value.document operators))
        (Document.setAll_setAll [(operator, .null)] (operatorsOf condition) hnodup).symm
    · rw [operatorsAt, hother other hpath heq, hother other hpath heq]
      exact h.there other operator hshown hpath

/-- A filter that is merged into both comes behind the nulls. -/
theorem mergeFilter (h : NullsShown shown result result') (subFilter : Document) :
    NullsShown shown (Params.mergeFilter result subFilter)
      (Params.mergeFilter result' subFilter) := by
  unfold Params.mergeFilter
  induction subFilter generalizing result result' with
  | nil => exact h
  | cons field rest ih => exact ih (h.mergeField field.1 field.2)

end NullsShown

/-! ### The compilation with one more rule -/

section Compile

variable {rules : RuleSet} {key : String} {rule : Rule} {input : Document}

/-- The null operands that a new rule exposes. -/
def ExposedNull (rules : RuleSet) (input : Document) (rule : Rule) (target operator : String) :
    Prop :=
  Exposed rules input rule target operator .null

/-- With a new rule whose key is absent the field rules succeed if they did without, and nulls are
shown. -/
theorem fieldConditions_insert (hkey : rules.contains key = false)
    (habsent : Document.get? input key = none) {fields : Document}
    (hfields : fieldConditions input [] (grouped rules) = .ok fields) :
    ∃ fields', fieldConditions input [] (grouped (rules.insert key rule)) = .ok fields' ∧
      NullsShown (ExposedNull rules input rule) fields fields' := by
  obtain ⟨fields', hfields'⟩ :
      ∃ fields', fieldConditions input [] (grouped (rules.insert key rule)) = .ok fields' := by
    rw [fieldConditions_grouped_isOk_iff]
    intro target
    obtain ⟨condition, hcondition⟩ := fieldConditions_grouped_isOk_iff.1 ⟨fields, hfields⟩ target
    exact exists_conditionOf_insert hkey habsent hcondition
  have hempty : ∀ name operator, ExposedNull rules input rule name operator →
      Document.get? fields name = some (.document []) := by
    rintro name operator ⟨-, hasks⟩
    obtain ⟨condition, hcondition, hfound⟩ := get?_fieldConditions_grouped hfields name
    rw [hasks.conditionOf_null] at hcondition
    rw [hfound, ← Except.ok.inj hcondition]
    rfl
  refine ⟨fields', hfields', ?_, ?_, ?_⟩
  · intro name hname
    obtain ⟨condition, hcondition, hfound⟩ := get?_fieldConditions_grouped hfields name
    obtain ⟨condition', hcondition', hfound'⟩ := get?_fieldConditions_grouped hfields' name
    -- What is not refused on its own is null or an array, and null would be shown.
    have heq : conditionOf input (contributionsTo (rules.insert key rule) name) =
        conditionOf input (contributionsTo rules name) := by
      refine conditionOf_insert_of_arrays hkey habsent fun operator operand hexposed => ?_
      refine (hexposed.2.operand_of_ok hcondition).resolve_left ?_
      rintro rfl
      exact hname (.inl ⟨operator, hexposed⟩)
    rw [heq, hcondition] at hcondition'
    rw [hfound, hfound', Except.ok.inj hcondition']
  · intro name operator hshown _
    rw [operatorsAt_of_get? (hempty name operator hshown)]
    exact List.nodup_nil
  · intro name operator hshown _
    obtain ⟨condition', hcondition', hfound'⟩ := get?_fieldConditions_grouped hfields' name
    rw [conditionOf_insert hkey habsent hshown.1, hshown.2.gathered] at hcondition'
    rw [operatorsAt_of_get? (hempty name operator hshown), hfound', ← Except.ok.inj hcondition']
    rfl

/-- With a new rule whose key is absent the field rules succeed only if they did without, unless an
operand is exposed that is neither null nor an array. -/
theorem fieldConditions_of_insert (hkey : rules.contains key = false)
    (habsent : Document.get? input key = none)
    (hallowed : ∀ target operator operand, Exposed rules input rule target operator operand →
      operand = .null ∨ ∃ items, operand = .array items) {fields' : Document}
    (hfields' : fieldConditions input [] (grouped (rules.insert key rule)) = .ok fields') :
    ∃ fields, fieldConditions input [] (grouped rules) = .ok fields := by
  rw [fieldConditions_grouped_isOk_iff]
  intro target
  obtain ⟨condition', hcondition'⟩ := fieldConditions_grouped_isOk_iff.1 ⟨fields', hfields'⟩ target
  exact exists_conditionOf_of_insert hkey habsent hcondition' (hallowed target)

/-- Filters stay related when the parameters without a rule are passed on and what says nothing is
dropped.  Where a parameter has been passed on, it stands in both. -/
theorem NullsShown.finished {shown : String → String → Prop} {merged merged' : Document}
    (h : NullsShown shown merged merged') (hmerged : (Document.names merged).Nodup)
    (hmerged' : (Document.names merged').Nodup) (rules : RuleSet) (strict : Bool)
    (remaining : Document) :
    (∀ name, ¬ Touched shown name →
      Document.get? (dropEmpty (passedOn rules strict remaining merged')) name =
        Document.get? (dropEmpty (passedOn rules strict remaining merged)) name) ∧
    ∀ name operator, shown name operator → ¬ (name = opAll ∨ name = opAny) →
      strict = true ∨ name ∉ Document.names (withoutRule rules remaining) →
      Document.get? (dropEmpty (passedOn rules strict remaining merged')) name =
        some (.document (Document.setAll [(operator, .null)]
          (operatorsAt (dropEmpty (passedOn rules strict remaining merged)) name))) := by
  constructor
  · intro name hname
    rw [get?_dropEmpty (nodup_passedOn hmerged'), get?_dropEmpty (nodup_passedOn hmerged)]
    unfold passedOn
    split
    · rw [h.elsewhere name hname]
    · rw [Document.get?_setAll, Document.get?_setAll, h.elsewhere name hname]
  · intro name operator hshown hpath hpassed
    have hnull : ∀ operators : Document,
        saysNothing (.document (Document.setAll [(operator, .null)] operators)) = false := by
      intro operators
      have hfound := Document.get?_setAll [(operator, .null)] operators operator
      cases hset : Document.setAll [(operator, .null)] operators with
      | nil => simp [hset, Document.get?_cons] at hfound
      | cons field rest => rfl
    rw [get?_dropEmpty (nodup_passedOn hmerged'), operatorsAt_dropEmpty (nodup_passedOn hmerged),
      operatorsAt, get?_passedOn_of_not_mem hpassed, get?_passedOn_of_not_mem hpassed,
      h.there name operator hshown hpath, Option.filter_some, hnull]
    rfl

/-- Filters with the same conditions in some order are both there or not. -/
theorem filter_rel_of_perm {rules' : RuleSet} {strict : Bool} {compiled compiled' : Compiled}
    (hcompiled : compile input rules strict = .ok compiled)
    (hcompiled' : compile input rules' strict = .ok compiled')
    (hperm : compiled.filterOrAll.Perm compiled'.filterOrAll) :
    Option.Rel List.Perm compiled.filter compiled'.filter := by
  rw [filter_of_compile hcompiled, filter_of_compile hcompiled', hperm.isEmpty_eq]
  split
  · exact .none
  · exact .some hperm

/-- Take a rule set and a valid rule for a new key that is not in the input.

If the compilation without the rule succeeds, so does the one with it, and the same parameters
remain.  The conditions are the same on every name, but for the targets of the new rule to which
there was one contribution before, one of membership that took null for no operand.  There null
stands as its operand, in front of the other operators.  If there is no such target, then the same
conditions are in the two filters, or both have none.

If the compilation with the rule succeeds, so does the one without, unless the new rule has a target
to which there was one contribution before, one of membership that refused what is no array. -/
theorem compile_insert_absent (hkey : rules.contains key = false)
    (hrule : rule.fault? key = none) (habsent : Document.get? input key = none) (strict : Bool) :
    (∀ compiled, compile input rules strict = .ok compiled →
      ∃ compiled', compile input (rules.insert key rule) strict = .ok compiled' ∧
        compiled'.remaining = compiled.remaining ∧
        (∀ name, ¬ Touched (ExposedNull rules input rule) name →
          Document.get? compiled'.filterOrAll name = Document.get? compiled.filterOrAll name) ∧
        (∀ name operator, ExposedNull rules input rule name operator →
          ¬ (name = opAll ∨ name = opAny) →
          strict = true ∨ name ∉ Document.names (withoutRule rules input) →
          Document.get? compiled'.filterOrAll name =
            some (.document (Document.setAll [(operator, .null)]
              (operatorsAt compiled.filterOrAll name)))) ∧
        ((∀ name operator, ¬ ExposedNull rules input rule name operator) →
          Option.Rel List.Perm compiled.filter compiled'.filter)) ∧
    ∀ compiled', compile input (rules.insert key rule) strict = .ok compiled' →
      (∃ compiled, compile input rules strict = .ok compiled) ∨
        ∃ name operator operand, Exposed rules input rule name operator operand ∧
          operand ≠ .null ∧ ∀ items, operand ≠ .array items := by
  constructor
  · intro compiled hcompiled
    obtain ⟨fields, merged, hvalid, hfields, happlied, hfilter⟩ := compile_eq_ok hcompiled
    obtain ⟨fields', hfields', hstart⟩ :
        ∃ fields', fieldConditions input [] (grouped (rules.insert key rule)) = .ok fields' ∧
          NullsShown (ExposedNull rules input rule) fields fields' :=
      fieldConditions_insert hkey habsent hfields
    obtain ⟨merged', happlied', hmerged⟩ :=
      applyDynamic_related (NullsShown (ExposedNull rules input rule))
        (fun _ _ subFilter h => h.mergeFilter subFilter) hstart happlied
    have hnodup := nodup_applyDynamic (nodup_fieldConditions Document.nodup_names_nil hfields)
      happlied
    have hnodup' := nodup_applyDynamic (nodup_fieldConditions Document.nodup_names_nil hfields')
      happlied'
    -- No stage reads the key of the new rule.
    rw [← applyDynamic_insert hkey habsent rule] at happlied'
    have hremaining : withoutRule rules compiled.remaining = withoutRule rules input :=
      withoutRule_of_applyDynamic (fun rule => contains_of_mem_dynamicRules) happlied
    have hpassed : passedOn (rules.insert key rule) strict compiled.remaining merged' =
        passedOn rules strict compiled.remaining merged' := by
      unfold passedOn
      rw [hremaining, ← withoutRule_insert habsent rule,
        withoutRule_of_applyDynamic (fun rule => contains_of_mem_dynamicRules) happlied']
    obtain ⟨compiled', hcompiled', hremaining', hfilter'⟩ :=
      compile_of_stages ((validate_insert_iff hkey hrule).2 hvalid) hfields' happlied' strict
    obtain ⟨helsewhere, hthere⟩ := hmerged.finished hnodup hnodup' rules strict compiled.remaining
    rw [hpassed] at hfilter'
    rw [← hfilter, ← hfilter'] at helsewhere hthere
    rw [hremaining] at hthere
    refine ⟨compiled', hcompiled', hremaining', helsewhere, hthere, fun hnone => ?_⟩
    refine filter_rel_of_perm hcompiled hcompiled' ?_
    refine Document.perm_of_get? ?_ ?_ fun name => (helsewhere name ?_).symm
    · rw [hfilter]
      exact nodup_dropEmpty (nodup_passedOn hnodup)
    · rw [hfilter']
      exact nodup_dropEmpty (nodup_passedOn hnodup')
    · simp [Touched, hnone]
  · intro compiled' hcompiled'
    obtain ⟨fields', merged', hvalid', hfields', happlied', -⟩ := compile_eq_ok hcompiled'
    by_cases hallowed : ∀ name operator operand, Exposed rules input rule name operator operand →
        operand = .null ∨ ∃ items, operand = .array items
    · obtain ⟨fields, hfields⟩ := fieldConditions_of_insert hkey habsent hallowed hfields'
      rw [applyDynamic_insert hkey habsent rule] at happlied'
      obtain ⟨merged, happlied, -⟩ :
          ∃ merged, applyDynamic input fields (dynamicRules rules) =
            .ok (compiled'.remaining, merged) ∧ True :=
        applyDynamic_related (fun _ _ => True) (fun _ _ _ _ => trivial) trivial happlied'
      obtain ⟨compiled, hcompiled, -⟩ :=
        compile_of_stages ((validate_insert_iff hkey hrule).1 hvalid') hfields happlied strict
      exact .inl ⟨compiled, hcompiled⟩
    · simp only [not_forall, not_or, not_exists] at hallowed
      obtain ⟨name, operator, operand, hexposed, hnull, harray⟩ := hallowed
      exact .inr ⟨name, operator, operand, hexposed, hnull, harray⟩

end Compile

/-! ### A second rule for a field -/

/-- The kinds that are asked for, and a least size. -/
def kindRules : RuleSet :=
  NameMap.ofList
    [("from", .field { targets := ["size"], operator := "$gte" }),
      ("kinds", .field { targets := ["kind"], operator := "$in" })]

/-- A rule for both fields. -/
def exceptRule : Rule := .field { targets := ["kind", "size"], operator := "$ne" }

/-- The statement for a list of kinds and a parameter that is passed on.  The fields come in another
order with the new rule. -/
theorem compile_insert_absent_kinds :
    ∃ compiled', compile [("kinds", .array [.string "a"]), ("from", .int32 2), ("page", .int32 3)]
        (kindRules.insert "except" exceptRule) false = .ok compiled' ∧
      ∃ filter, compiled'.filter = some filter ∧
        List.Perm
          [("size", .document [("$gte", .int32 2)]),
            ("kind", .document [("$in", .array [.string "a"])]), ("page", .int32 3)] filter := by
  have hcompiled :
      compile [("kinds", .array [.string "a"]), ("from", .int32 2), ("page", .int32 3)]
        kindRules false = .ok
          ⟨some [("size", .document [("$gte", .int32 2)]),
              ("kind", .document [("$in", .array [.string "a"])]), ("page", .int32 3)],
            [("kinds", .array [.string "a"]), ("from", .int32 2), ("page", .int32 3)]⟩ := by rfl
  have hkey : kindRules.contains "except" = false := by decide
  have hrule : exceptRule.fault? "except" = none := by rfl
  have habsent : Document.get?
      [("kinds", .array [.string "a"]), ("from", .int32 2), ("page", .int32 3)] "except" =
        none := by rfl
  obtain ⟨compiled', hcompiled', -, -, -, hsame⟩ :=
    (compile_insert_absent hkey hrule habsent false).1 _ hcompiled
  have hnone : ∀ name operator, ¬ ExposedNull kindRules
      [("kinds", .array [.string "a"]), ("from", .int32 2), ("page", .int32 3)] exceptRule
        name operator := by
    rintro name operator ⟨htarget, hmembership, contribution, raw, hone, rfl, hraw, hoperand⟩
    rcases List.mem_cons.1 htarget with rfl | htarget
    · -- The operand for the kind is a list.
      have hkinds : contributionsTo kindRules "kind" = [⟨"kinds", "$in", none⟩] := by rfl
      obtain rfl := List.singleton_inj.1 (hkinds.symm.trans hone)
      obtain rfl : .array [.string "a"] = raw := Option.some.inj hraw
      simp [operandOf] at hoperand
    · obtain rfl := List.mem_singleton.1 htarget
      have hsizes : contributionsTo kindRules "size" = [⟨"from", "$gte", none⟩] := by rfl
      obtain rfl := List.singleton_inj.1 (hsizes.symm.trans hone)
      exact absurd hmembership (by decide)
  refine ⟨compiled', hcompiled', ?_⟩
  cases hfilter : compiled'.filter with
  | none =>
    have hrel := hsame hnone
    rw [hfilter] at hrel
    cases hrel
  | some filter =>
    have hrel := hsame hnone
    rw [hfilter] at hrel
    cases hrel with
    | some hperm => exact ⟨filter, rfl, hperm⟩

/-- The rule for kinds stands alone for its field until there is another one, whose key is absent.
Then null, which was no operand, is one, and a single kind, which was refused, is taken. -/
theorem compile_insert_exposes :
    RuleSet.validate kindRules = .ok () ∧ kindRules.contains "except" = false ∧
      exceptRule.fault? "except" = none ∧
      Document.get? [("kinds", .null)] "except" = none ∧
      Document.get? [("kinds", .string "a")] "except" = none ∧
      (∃ compiled compiled', compile [("kinds", .null)] kindRules true = .ok compiled ∧
        compile [("kinds", .null)] (kindRules.insert "except" exceptRule) true = .ok compiled' ∧
        compiled.filter = none ∧ compiled'.filter = some [("kind", .document [("$in", .null)])]) ∧
      (∃ error, compile [("kinds", .string "a")] kindRules true = .error error) ∧
      ∃ compiled', compile [("kinds", .string "a")] (kindRules.insert "except" exceptRule) true =
        .ok compiled' := by
  refine ⟨by rfl, by decide, by rfl, by rfl, by rfl, ⟨⟨none, [("kinds", .null)]⟩,
    ⟨some [("kind", .document [("$in", .null)])], [("kinds", .null)]⟩, by rfl, by rfl, rfl, rfl⟩,
    ⟨.validation (.operandNotArray "$in" "kinds" .string), by rfl⟩,
    ⟨some [("kind", .document [("$in", .string "a")])], [("kinds", .string "a")]⟩, by rfl⟩

end VersionedStore.Params
