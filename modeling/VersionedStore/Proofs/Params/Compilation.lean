import VersionedStore.Proofs.NameMap.Lookup
import VersionedStore.Proofs.Params.FieldRules

/-!
# The stages of a compilation

A compilation sets the conditions of the field rules, applies the dynamic rules, passes on what no
rule reads if it is loose, and drops what says nothing.

* `compile_eq_ok`: the stages of a compilation that succeeds.
* `compile_of_stages`: stages that succeed make a compilation that does.
* `applyDynamic_cons_eq_ok`: what a dynamic rule does that does not fail.
* `withoutRule_of_applyDynamic`: dynamic rules take parameters away that have a rule.
* `nodup_fieldConditions`, `nodup_applyDynamic`: a field is set once.
* `applyDynamic_related`: dynamic rules do the same to any two filters.
* `get?_dropEmpty`, `get?_passedOn_of_not_mem`, `filter_of_compile`: the finished filter.
* `conditionOf_of_absent`, `applyDynamic_of_absent`: rules whose keys are not in the input do
  nothing.
-/

set_option autoImplicit false

namespace VersionedStore.Params

/-! ### The stages -/

/-- What is left of a filter once fields that say nothing are dropped. -/
theorem filterOrAll_mk (filter remaining : Document) :
    Compiled.filterOrAll ⟨if filter.isEmpty then none else some filter, remaining⟩ = filter := by
  cases filter <;> rfl

/-- What a compilation makes of the merged filter, which depends on its kind. -/
def passedOn (rules : RuleSet) (strict : Bool) (remaining merged : Document) : Document :=
  if strict then merged else Document.setAll merged (withoutRule rules remaining)

/-- What stages that succeed come to. -/
theorem compile_eq_of_stages {input fields remaining merged : Document} {rules : RuleSet}
    (hvalid : RuleSet.validate rules = .ok ())
    (hfields : fieldConditions input [] (grouped rules) = .ok fields)
    (happlied : applyDynamic input fields (dynamicRules rules) = .ok (remaining, merged))
    (strict : Bool) :
    compile input rules strict =
      .ok ⟨if (dropEmpty (passedOn rules strict remaining merged)).isEmpty then none
        else some (dropEmpty (passedOn rules strict remaining merged)), remaining⟩ := by
  unfold compile passedOn
  simp only [hvalid, hfields, happlied, bind, Except.bind, pure, Except.pure]

/-- Stages that succeed make a compilation that does. -/
theorem compile_of_stages {input fields remaining merged : Document} {rules : RuleSet}
    (hvalid : RuleSet.validate rules = .ok ())
    (hfields : fieldConditions input [] (grouped rules) = .ok fields)
    (happlied : applyDynamic input fields (dynamicRules rules) = .ok (remaining, merged))
    (strict : Bool) :
    ∃ compiled, compile input rules strict = .ok compiled ∧ compiled.remaining = remaining ∧
      compiled.filterOrAll = dropEmpty (passedOn rules strict remaining merged) :=
  ⟨_, compile_eq_of_stages hvalid hfields happlied strict, rfl, filterOrAll_mk _ _⟩

/-- A compilation that succeeds goes through all stages. -/
theorem compile_eq_ok {input : Document} {rules : RuleSet} {strict : Bool} {compiled : Compiled}
    (h : compile input rules strict = .ok compiled) :
    ∃ fields merged, RuleSet.validate rules = .ok () ∧
      fieldConditions input [] (grouped rules) = .ok fields ∧
      applyDynamic input fields (dynamicRules rules) = .ok (compiled.remaining, merged) ∧
      compiled.filterOrAll = dropEmpty (passedOn rules strict compiled.remaining merged) := by
  cases hvalid : RuleSet.validate rules with
  | error error => simp [compile, hvalid, bind, Except.bind] at h
  | ok _ =>
    cases hfields : fieldConditions input [] (grouped rules) with
    | error error => simp [compile, hvalid, hfields, bind, Except.bind] at h
    | ok fields =>
      cases happlied : applyDynamic input fields (dynamicRules rules) with
      | error error => simp [compile, hvalid, hfields, happlied, bind, Except.bind] at h
      | ok applied =>
        obtain ⟨remaining, merged⟩ := applied
        obtain ⟨compiled', hcompiled', rfl, hfilter⟩ :=
          compile_of_stages hvalid hfields happlied strict
        rw [hcompiled'] at h
        obtain rfl := Except.ok.inj h
        exact ⟨fields, merged, rfl, rfl, happlied, hfilter⟩

/-! ### What dynamic rules take away -/

/-- A dynamic rule that does not fail is passed over if its key is absent, and otherwise takes its
parameter away and merges what it makes of it. -/
theorem applyDynamic_cons_eq_ok {input result : Document} {key : String} {expand : Expansion}
    {rest : List (String × Expansion)} {applied : Document × Document}
    (h : applyDynamic input result ((key, expand) :: rest) = .ok applied) :
    (Document.get? input key = none ∧ applyDynamic input result rest = .ok applied) ∨
      ∃ raw subFilter, Document.get? input key = some raw ∧
        convertText key raw expand = .ok subFilter ∧
        applyDynamic (Document.erase input key) (mergeFilter result subFilter) rest =
          .ok applied := by
  unfold applyDynamic at h
  cases hraw : Document.get? input key with
  | none =>
    simp only [hraw] at h
    exact .inl ⟨rfl, h⟩
  | some raw =>
    simp only [hraw] at h
    cases hconverted : convertText key raw expand with
    | error error => simp [hconverted] at h
    | ok subFilter =>
      simp only [hconverted] at h
      exact .inr ⟨raw, subFilter, rfl, hconverted, h⟩

/-- The key of a dynamic rule has a rule. -/
theorem contains_of_mem_dynamicRules {rules : RuleSet} {rule : String × Expansion}
    (h : rule ∈ dynamicRules rules) : rules.contains rule.1 = true := by
  unfold dynamicRules at h
  obtain ⟨⟨key, entry⟩, hentry, hrule⟩ := List.mem_filterMap.1 h
  cases entry with
  | field _ => simp at hrule
  | dynamic expand =>
    obtain rfl := Option.some.inj hrule
    exact (NameMap.contains_iff rules key).2 ⟨_, (rules.mem_entries_iff key _).1 hentry⟩

/-- The key of what a field rule contributes has a rule. -/
theorem contains_of_mem_contributions {rules : RuleSet} {entry : String × Contribution}
    (h : entry ∈ contributions rules) : rules.contains entry.2.key = true := by
  unfold contributions at h
  obtain ⟨⟨key, rule⟩, hrule, hentry⟩ := List.mem_flatMap.1 h
  have hkey : rules.contains key = true :=
    (NameMap.contains_iff rules key).2 ⟨rule, (rules.mem_entries_iff key rule).1 hrule⟩
  cases rule with
  | field rule =>
    obtain ⟨target, -, rfl⟩ := List.mem_map.1 hentry
    exact hkey
  | dynamic expand => simp at hentry

/-- Parameters without a rule stay when one with a rule is taken away. -/
theorem withoutRule_erase {rules : RuleSet} {key : String} (hkey : rules.contains key = true)
    (input : Document) :
    withoutRule rules (Document.erase input key) = withoutRule rules input := by
  unfold withoutRule Document.erase
  rw [List.filter_filter]
  refine List.filter_congr fun field _ => ?_
  by_cases hfield : field.1 = key
  · simp [hfield, hkey]
  · simp [hfield]

/-- Dynamic rules leave the parameters that have no rule. -/
theorem withoutRule_of_applyDynamic {rules : RuleSet} {input result remaining merged : Document}
    {dynamic : List (String × Expansion)}
    (hdynamic : ∀ rule ∈ dynamic, rules.contains rule.1 = true)
    (h : applyDynamic input result dynamic = .ok (remaining, merged)) :
    withoutRule rules remaining = withoutRule rules input := by
  induction dynamic generalizing input result with
  | nil =>
    obtain ⟨rfl, -⟩ := Prod.mk.inj (Except.ok.inj h)
    rfl
  | cons rule rest ih =>
    obtain ⟨key, expand⟩ := rule
    rw [List.forall_mem_cons] at hdynamic
    rcases applyDynamic_cons_eq_ok h with ⟨-, hrest⟩ | ⟨raw, subFilter, -, -, hrest⟩
    · exact ih hdynamic.2 hrest
    · rw [ih hdynamic.2 hrest, withoutRule_erase hdynamic.1]

/-! ### A field is set once -/

/-- Setting the conditions of the field rules gives no name twice. -/
theorem nodup_fieldConditions {input result fields : Document}
    {groups : List (String × List Contribution)} (hdistinct : (Document.names result).Nodup)
    (h : fieldConditions input result groups = .ok fields) : (Document.names fields).Nodup := by
  induction groups generalizing result with
  | nil =>
    obtain rfl := Except.ok.inj h
    exact hdistinct
  | cons group rest ih =>
    unfold fieldConditions at h
    split at h
    · simp at h
    · exact ih hdistinct h
    · exact ih (Document.nodup_names_set _ _ hdistinct) h

/-- Adding members to a group gives no name twice. -/
theorem nodup_appendAll {result : Document} (members : List Value)
    (hdistinct : (Document.names result).Nodup) :
    (Document.names (appendAll result members)).Nodup :=
  Document.nodup_names_set _ _ (Document.nodup_names_erase _ hdistinct)

/-- Merging a field gives no name twice. -/
theorem nodup_mergeField {result : Document} (name : String) (condition : Value)
    (hdistinct : (Document.names result).Nodup) :
    (Document.names (mergeField result name condition)).Nodup := by
  unfold mergeField
  split
  · split <;> exact nodup_appendAll _ hdistinct
  · split
    · split
      · exact Document.nodup_names_set _ _ hdistinct
      · exact nodup_appendAll _ (Document.nodup_names_erase _ hdistinct)
    · exact Document.nodup_names_set _ _ hdistinct

/-- Merging a sub-filter gives no name twice. -/
theorem nodup_mergeFilter {result : Document} (subFilter : Document)
    (hdistinct : (Document.names result).Nodup) :
    (Document.names (mergeFilter result subFilter)).Nodup := by
  unfold mergeFilter
  induction subFilter generalizing result with
  | nil => exact hdistinct
  | cons field rest ih => exact ih (nodup_mergeField field.1 field.2 hdistinct)

/-- Merging the sub-filters of the dynamic rules gives no name twice. -/
theorem nodup_applyDynamic {input result remaining merged : Document}
    {dynamic : List (String × Expansion)} (hdistinct : (Document.names result).Nodup)
    (h : applyDynamic input result dynamic = .ok (remaining, merged)) :
    (Document.names merged).Nodup := by
  induction dynamic generalizing input result with
  | nil =>
    obtain ⟨-, rfl⟩ := Prod.mk.inj (Except.ok.inj h)
    exact hdistinct
  | cons rule rest ih =>
    rcases applyDynamic_cons_eq_ok h with ⟨-, hrest⟩ | ⟨raw, subFilter, -, -, hrest⟩
    · exact ih hdistinct hrest
    · exact ih (nodup_mergeFilter _ hdistinct) hrest

/-- Dynamic rules succeed whatever filter they are merged into, and keep a relation that merging
keeps. -/
theorem applyDynamic_related (related : Document → Document → Prop)
    (hmerge : ∀ result result' subFilter, related result result' →
      related (mergeFilter result subFilter) (mergeFilter result' subFilter))
    {input result result' remaining merged : Document} {dynamic : List (String × Expansion)}
    (h : related result result')
    (happlied : applyDynamic input result dynamic = .ok (remaining, merged)) :
    ∃ merged', applyDynamic input result' dynamic = .ok (remaining, merged') ∧
      related merged merged' := by
  induction dynamic generalizing input result result' with
  | nil =>
    obtain ⟨rfl, rfl⟩ := Prod.mk.inj (Except.ok.inj happlied)
    exact ⟨result', rfl, h⟩
  | cons rule rest ih =>
    obtain ⟨key, expand⟩ := rule
    unfold applyDynamic
    rcases applyDynamic_cons_eq_ok happlied with
      ⟨hraw, hrest⟩ | ⟨raw, subFilter, hraw, hconverted, hrest⟩
    · simp only [hraw]
      exact ih h hrest
    · simp only [hraw, hconverted]
      exact ih (hmerge _ _ subFilter h) hrest

/-! ### The finished filter, name by name -/

/-- Dropping empty conditions gives no name twice. -/
theorem nodup_dropEmpty {filter : Document} (hdistinct : (Document.names filter).Nodup) :
    (Document.names (dropEmpty filter)).Nodup :=
  hdistinct.sublist (List.filter_sublist.map _)

/-- What a compilation makes of the merged filter has no name twice. -/
theorem nodup_passedOn {rules : RuleSet} {strict : Bool} {remaining merged : Document}
    (hdistinct : (Document.names merged).Nodup) :
    (Document.names (passedOn rules strict remaining merged)).Nodup := by
  unfold passedOn
  split
  · exact hdistinct
  · exact Document.nodup_names_setAll _ hdistinct

/-- Dropping what says nothing drops it from look-ups. -/
theorem get?_dropEmpty {filter : Document} (hdistinct : (Document.names filter).Nodup)
    (name : String) :
    Document.get? (dropEmpty filter) name =
      (Document.get? filter name).filter fun condition => !saysNothing condition := by
  refine Option.ext fun condition => ?_
  have hfound : ∀ {document : Document}, (Document.names document).Nodup →
      (Document.get? document name = some condition ↔ (name, condition) ∈ document) :=
    fun hnodup => ⟨Document.mem_of_get?, Document.get?_of_mem hnodup⟩
  rw [Option.filter_eq_some_iff, hfound (nodup_dropEmpty hdistinct), hfound hdistinct,
    mem_dropEmpty, Bool.not_eq_true']

/-- What says nothing has no operators. -/
theorem operatorsAt_dropEmpty {filter : Document} (hdistinct : (Document.names filter).Nodup)
    (name : String) : operatorsAt (dropEmpty filter) name = operatorsAt filter name := by
  unfold operatorsAt
  rw [get?_dropEmpty hdistinct]
  cases Document.get? filter name with
  | none => rfl
  | some condition =>
    by_cases hsays : saysNothing condition = true
    · obtain rfl : condition = .document [] := by
        unfold saysNothing at hsays
        split at hsays
        · rfl
        · exact absurd hsays Bool.false_ne_true
      rfl
    · rw [Option.filter_some, if_pos (by simpa using hsays)]

/-- Only parameters without a rule take the place of conditions. -/
theorem get?_passedOn_of_not_mem {rules : RuleSet} {strict : Bool} {remaining merged : Document}
    {name : String}
    (h : strict = true ∨ name ∉ Document.names (withoutRule rules remaining)) :
    Document.get? (passedOn rules strict remaining merged) name = Document.get? merged name := by
  unfold passedOn
  by_cases hstrict : strict = true
  · rw [if_pos hstrict]
  · rw [if_neg hstrict, Document.get?_setAll_of_not_mem merged (h.resolve_left hstrict)]

/-- The filter is there if any condition is left. -/
theorem filter_of_compile {input : Document} {rules : RuleSet} {strict : Bool}
    {compiled : Compiled} (h : compile input rules strict = .ok compiled) :
    compiled.filter =
      if compiled.filterOrAll.isEmpty then none else some compiled.filterOrAll := by
  obtain ⟨fields, merged, hvalid, hfields, happlied, hfilter⟩ := compile_eq_ok h
  rw [compile_eq_of_stages hvalid hfields happlied strict] at h
  rw [hfilter, ← Except.ok.inj h]

/-! ### Parameters that are not there -/

section Absent

variable {input : Document}

/-- Contributions whose keys are absent add nothing to the operators of a field. -/
theorem gatherOperators_of_absent {condition : Option Document} {several : List Contribution}
    (habsent : ∀ contribution ∈ several, Document.get? input contribution.key = none) :
    gatherOperators input condition several = .ok condition := by
  induction several with
  | nil => rfl
  | cons contribution rest ih =>
    rw [List.forall_mem_cons] at habsent
    unfold gatherOperators
    rw [habsent.1]
    exact ih habsent.2

/-- Without any of its parameters there is no condition on a field. -/
theorem conditionOf_of_absent {several : List Contribution}
    (habsent : ∀ contribution ∈ several, Document.get? input contribution.key = none) :
    conditionOf input several = .ok none := by
  unfold conditionOf
  split
  · rw [habsent _ List.mem_cons_self]
  · exact gatherOperators_of_absent habsent

/-- Field rules whose keys are absent set no conditions. -/
theorem fieldConditions_of_absent {groups : List (String × List Contribution)}
    (habsent : ∀ group ∈ groups, ∀ contribution ∈ group.2,
      Document.get? input contribution.key = none) (result : Document) :
    fieldConditions input result groups = .ok result := by
  induction groups with
  | nil => rfl
  | cons group rest ih =>
    rw [List.forall_mem_cons] at habsent
    unfold fieldConditions
    rw [conditionOf_of_absent habsent.1]
    exact ih habsent.2

/-- Dynamic rules whose keys are absent take up no parameter and merge nothing. -/
theorem applyDynamic_of_absent {dynamic : List (String × Expansion)}
    (habsent : ∀ rule ∈ dynamic, Document.get? input rule.1 = none) (result : Document) :
    applyDynamic input result dynamic = .ok (input, result) := by
  induction dynamic with
  | nil => rfl
  | cons rule rest ih =>
    rw [List.forall_mem_cons] at habsent
    unfold applyDynamic
    rw [habsent.1]
    exact ih habsent.2

/-- Where no parameter has a rule, all parameters are without one. -/
theorem withoutRule_of_absent {rules : RuleSet}
    (hkeys : ∀ name ∈ Document.names input, rules.contains name = false) :
    withoutRule rules input = input := by
  unfold withoutRule
  refine List.filter_eq_self.2 fun field hfield => ?_
  rw [hkeys field.1 (Document.mem_names_of_mem hfield)]
  rfl

end Absent

end VersionedStore.Params
