import VersionedStore.Proofs.Filter.Connective
import VersionedStore.Proofs.Params.Compilation

/-!
# A rule set of one dynamic rule

A strict compilation with a single dynamic rule merges the sub-filter of the rule into a filter
without any field.  Every field of the sub-filter lands in its place: groups as they are, and other
conditions as maps of operators, in which a plain value is an operand of equality.  So the compiled
filter comes to the truth values of the sub-filter, with two exceptions.  Conditions that are empty
documents are dropped, and a `$nor` group lands as an operand of equality, under which it is no
group any more.

* `landed`, `mergeField_of_new`, `mergeFilter_nil`: the field that a field of a sub-filter becomes.
* `holds_operatorsOf`, `fieldAccepts_landed`: it comes to the same truth value.
* `fieldAccepts_landed_none`: but a `$nor` group fails.
* `accepts_landed`: the whole sub-filter, field by field.
* `compile_single_expansion`: the compiled filter against the sub-filter.
-/

set_option autoImplicit false

namespace VersionedStore.Params

/-! ### Where the fields of a sub-filter land -/

/-- The group of which no filter may match. -/
def opNone : String := "$nor"

/-- The condition that a field of a sub-filter becomes in a filter without its name. -/
def landed (name : String) (condition : Value) : Value :=
  if name = opAll then
    match condition with
    | .array members => .array members
    | other => .array [other]
  else if name = opAny then condition
  else .document (operatorsOf condition)

/-- The field that a field of a sub-filter becomes. -/
def landedField (field : String × Value) : String × Value := (field.1, landed field.1 field.2)

/-- Where there is no group of all members yet, adding members puts one behind the fields. -/
theorem appendAll_of_new {result : Document} (members : List Value)
    (hnew : opAll ∉ Document.names result) :
    appendAll result members = result ++ [(opAll, .array members)] := by
  have hnone : Document.get? result opAll = none := (Document.get?_eq_none_iff result opAll).2 hnew
  have herase : Document.erase result opAll = result := by
    unfold Document.erase
    rw [List.filter_eq_self]
    intro field hfield
    have hne : field.1 ≠ opAll := fun heq => hnew (heq ▸ Document.mem_names_of_mem hfield)
    simpa using hne
  unfold appendAll
  rw [hnone, herase]
  exact Document.set_of_not_mem _ hnew

/-- A field with a new name lands behind the others. -/
theorem mergeField_of_new {result : Document} {name : String} {condition : Value}
    (hnew : name ∉ Document.names result)
    (hoperators : (Document.names (operatorsOf condition)).Nodup) :
    mergeField result name condition = result ++ [(name, landed name condition)] := by
  have hnone : Document.get? result name = none := (Document.get?_eq_none_iff result name).2 hnew
  by_cases hall : name = opAll
  · subst hall
    unfold mergeField landed
    rw [if_pos rfl, if_pos rfl]
    cases condition <;> exact appendAll_of_new _ hnew
  by_cases hany : name = opAny
  · subst hany
    unfold mergeField landed
    rw [if_neg hall, if_pos rfl, if_neg hall, if_pos rfl, hnone]
    exact Document.set_of_not_mem _ hnew
  · have hthere : operatorsAt result name = [] := by
      rw [operatorsAt, hnone]
      rfl
    have hset : Document.setAll [] (operatorsOf condition) = [] ++ operatorsOf condition :=
      Document.setAll_of_disjoint hoperators (by simp)
    unfold landed
    rw [if_neg hall, if_neg hany, mergeField_of_not_group result (not_or.2 ⟨hall, hany⟩), hthere,
      hset]
    exact Document.set_of_not_mem _ hnew

/-- A sub-filter whose names are new lands behind the fields that are there. -/
theorem mergeFilter_of_new {result subFilter : Document}
    (hdistinct : (Document.names (result ++ subFilter)).Nodup)
    (hoperators : ∀ field ∈ subFilter, (Document.names (operatorsOf field.2)).Nodup) :
    mergeFilter result subFilter = result ++ subFilter.map landedField := by
  unfold mergeFilter
  induction subFilter generalizing result with
  | nil => simp
  | cons field rest ih =>
    have hnew : field.1 ∉ Document.names result := by
      intro hmem
      rw [Document.names_append, List.nodup_append] at hdistinct
      exact hdistinct.2.2 field.1 hmem field.1 List.mem_cons_self rfl
    have hlanded := mergeField_of_new hnew (hoperators field List.mem_cons_self)
    have hnames : Document.names (result ++ [(field.1, landed field.1 field.2)] ++ rest) =
        Document.names (result ++ field :: rest) := by
      simp
    rw [List.foldl_cons, hlanded, ih]
    · simp [landedField]
    · rw [hnames]
      exact hdistinct
    · intro other hother
      exact hoperators other (List.mem_cons_of_mem _ hother)

/-- Merged into a filter without any field, a sub-filter keeps its fields in their order. -/
theorem mergeFilter_nil {subFilter : Document} (hdistinct : (Document.names subFilter).Nodup)
    (hoperators : ∀ field ∈ subFilter, (Document.names (operatorsOf field.2)).Nodup) :
    mergeFilter [] subFilter = subFilter.map landedField := by
  have hlands : mergeFilter [] subFilter = [] ++ subFilter.map landedField :=
    mergeFilter_of_new (by simpa using hdistinct) hoperators
  simpa using hlands

/-! ### What a landed field comes to -/

/-- A plain value asks for the same as the operator of equality with it. -/
theorem holds_operatorsOf (value : Option Value) (condition : Value) :
    Condition.holds value (.document (operatorsOf condition)) = Condition.holds value condition := by
  by_cases hkind : condition.kind = .document
  · cases condition with
    | document operators => rfl
    | _ => simp [Value.kind] at hkind
  · have hplain : operatorsOf condition = [(opEqual, condition)] := by
      cases condition with
      | document operators => exact absurd rfl hkind
      | _ => rfl
    have hmap : Condition.isOperatorMap [(opEqual, condition)] = true := by
      show isOperatorName opEqual = true
      decide
    have hequal : Condition.operatorHolds value [(opEqual, condition)] opEqual condition
        (fun _ => Condition.holds value condition) = .ok (Condition.equal value condition) := rfl
    rw [hplain, Condition.holds_of_kind_ne hkind, Condition.holds, if_pos hmap, Condition.allHold,
      hequal]
    cases Condition.equal value condition <;> simp only [Condition.allHold]

/-- A field that comes to a truth value comes to the same where it lands, unless it is a group of
which no filter may match. -/
theorem fieldAccepts_landed {name : String} (hname : name ≠ opNone) {document : Document}
    {condition : Value} {matched : Bool}
    (h : Filter.fieldAccepts document name condition = .ok matched) :
    Filter.fieldAccepts document name (landed name condition) = .ok matched := by
  by_cases hgroup : name = opAll ∨ name = opAny
  · have hmember : name ∈ Filter.groupNames := by
      rcases hgroup with rfl | rfl <;> decide
    obtain ⟨filters, rfl⟩ := Filter.exists_filters_of_group hmember h
    have hkept : landed name (.array (filters.map .document)) =
        .array (filters.map .document) := by
      rcases hgroup with rfl | rfl <;> rfl
    rw [hkept]
    exact h
  · obtain ⟨hall, hany⟩ := not_or.1 hgroup
    unfold landed
    rw [if_neg hall, if_neg hany]
    cases hoperator : isOperatorName name with
    | true =>
      have hother : name ∉ Filter.groupNames := by
        simpa [Filter.groupNames] using ⟨hall, hany, hname⟩
      rw [Filter.fieldAccepts_of_unsupported hoperator hother] at h
      simp at h
    | false =>
      rw [Filter.fieldAccepts_path hoperator] at h ⊢
      rw [holds_operatorsOf]
      exact h

/-- Under its name, a group of which no filter may match is no group where it lands. -/
theorem fieldAccepts_landed_none (document : Document) (condition : Value) :
    Filter.fieldAccepts document opNone (landed opNone condition) =
      .error (.backend (.operandNotArray opNone)) := by
  have hlanded : landed opNone condition = .document (operatorsOf condition) := rfl
  rw [hlanded]
  simp [Filter.fieldAccepts, opNone]

/-- A map of operators says nothing if it is empty. -/
theorem saysNothing_document (operators : Document) :
    saysNothing (.document operators) = operators.isEmpty := by
  cases operators <;> rfl

/-- A condition has no operators if it says nothing. -/
theorem isEmpty_operatorsOf (condition : Value) :
    (operatorsOf condition).isEmpty = saysNothing condition := by
  cases condition with
  | document operators => exact (saysNothing_document operators).symm
  | _ => rfl

/-- What says nothing says nothing where it lands, unless it lands among the members of a
conjunction. -/
theorem saysNothing_landed (name : String) (condition : Value) :
    saysNothing (landed name condition) = (saysNothing condition && name != opAll) := by
  unfold landed
  by_cases hall : name = opAll
  · cases condition <;> simp [hall, saysNothing]
  by_cases hany : name = opAny
  · rw [if_neg hall, if_pos hany]
    simp [hall]
  · rw [if_neg hall, if_neg hany, saysNothing_document, isEmpty_operatorsOf]
    simp [hall]

/-- Empty conditions are dropped field by field. -/
theorem dropEmpty_cons (field : String × Value) (rest : Document) :
    dropEmpty (field :: rest) =
      if saysNothing field.2 = true then dropEmpty rest else field :: dropEmpty rest := by
  unfold dropEmpty
  cases hvoid : saysNothing field.2 <;> simp [hvoid]

/-- An empty document that lands among the members of a conjunction is a filter that always
matches. -/
theorem fieldAccepts_landed_empty (document : Document) :
    Filter.fieldAccepts document opAll (landed opAll (.document [])) = .ok true := by
  have hlanded : landed opAll (.document []) = .array [.document []] := rfl
  rw [hlanded]
  show Filter.fieldAccepts document "$and" (.array [.document []]) = .ok true
  rw [Filter.fieldAccepts_all]
  simp [Filter.checkClauses, Filter.allAccept, Filter.accepts_nil, Except.bind]

/-- A sub-filter without what says nothing comes to the same truth value where it lands. -/
theorem accepts_landed {subFilter document : Document} {matched : Bool}
    (hnone : opNone ∉ Document.names subFilter)
    (h : Filter.accepts document (dropEmpty subFilter) = .ok matched) :
    Filter.accepts document (dropEmpty (subFilter.map landedField)) = .ok matched := by
  induction subFilter with
  | nil => exact h
  | cons field rest ih =>
    obtain ⟨name, condition⟩ := field
    rw [Document.names_cons, List.mem_cons, not_or] at hnone
    rw [dropEmpty_cons] at h
    rw [List.map_cons, landedField, dropEmpty_cons]
    dsimp only at h hnone ⊢
    rw [saysNothing_landed]
    cases hvoid : saysNothing condition with
    | true =>
      rw [hvoid, if_pos rfl] at h
      by_cases hall : name = opAll
      · obtain rfl : condition = .document [] := by
          unfold saysNothing at hvoid
          split at hvoid
          · rfl
          · exact absurd hvoid Bool.false_ne_true
        subst hall
        rw [if_neg (by simp), Filter.accepts_cons, fieldAccepts_landed_empty]
        exact ih hnone.2 h
      · rw [if_pos (by simp [hall])]
        exact ih hnone.2 h
    | false =>
      rw [hvoid, if_neg Bool.false_ne_true, Filter.accepts_cons] at h
      rw [Bool.false_and, if_neg Bool.false_ne_true, Filter.accepts_cons]
      cases hfield : Filter.fieldAccepts document name condition with
      | error error => simp [hfield] at h
      | ok held =>
        rw [fieldAccepts_landed (Ne.symm hnone.1) hfield]
        rw [hfield] at h
        cases held with
        | false => exact h
        | true => exact ih hnone.2 h

/-! ### The compiled filter -/

/-- A strict compilation with one dynamic rule merges the sub-filter into a filter without any
field. -/
theorem compile_of_single {rules : RuleSet} {key : String} {expand : Expansion} {input : Document}
    {text : String} {subFilter : Document} (hrules : rules.entries = [(key, .dynamic expand)])
    (hinput : Document.get? input key = some (.string text))
    (hexpand : expand text = .ok subFilter) :
    ∃ compiled, compile input rules true = .ok compiled ∧
      compiled.filterOrAll = dropEmpty (mergeFilter [] subFilter) := by
  have hvalid : RuleSet.validate rules = .ok () := by
    unfold RuleSet.validate
    rw [hrules]
    rfl
  have hfields : fieldConditions input [] (grouped rules) = .ok [] := by
    unfold grouped contributions
    rw [hrules]
    simp [fieldConditions]
  have hdynamic : dynamicRules rules = [(key, expand)] := by
    unfold dynamicRules
    rw [hrules]
    rfl
  have happlied : applyDynamic input [] (dynamicRules rules) =
      .ok (Document.erase input key, mergeFilter [] subFilter) := by
    rw [hdynamic]
    simp [applyDynamic, hinput, convertText, hexpand, Except.mapError]
  obtain ⟨compiled, hcompiled, -, hfilter⟩ := compile_of_stages hvalid hfields happlied true
  exact ⟨compiled, hcompiled, hfilter⟩

/-- Take a rule set with one dynamic rule, and parameters with a text for it.  The strict
compilation succeeds.  If the sub-filter has no `$nor` group, then on every document on which it
comes to a truth value, once the conditions that are empty documents are dropped, the compiled
filter comes to the same; so it does for the sub-filter as it is if none of its conditions is an
empty document.  With a `$nor` group, the compiled filter matches no document. -/
theorem compile_single_expansion {rules : RuleSet} {key : String} {expand : Expansion}
    {input : Document} {text : String} {subFilter : Document}
    (hrules : rules.entries = [(key, .dynamic expand)])
    (hinput : Document.get? input key = some (.string text))
    (hexpand : expand text = .ok subFilter) (hdistinct : (Document.names subFilter).Nodup)
    (hoperators : ∀ field ∈ subFilter, (Document.names (operatorsOf field.2)).Nodup) :
    ∃ compiled, compile input rules true = .ok compiled ∧
      (opNone ∉ Document.names subFilter → ∀ document matched,
        (Filter.accepts document (dropEmpty subFilter) = .ok matched →
          Filter.accepts document compiled.filterOrAll = .ok matched) ∧
        ((∀ field ∈ subFilter, saysNothing field.2 = false) →
          Filter.accepts document subFilter = .ok matched →
          Filter.accepts document compiled.filterOrAll = .ok matched)) ∧
      ((∃ clauses, (opNone, .array clauses) ∈ subFilter) → ∀ document,
        Filter.accepts document compiled.filterOrAll ≠ .ok true) := by
  obtain ⟨compiled, hcompiled, hfilter⟩ := compile_of_single hrules hinput hexpand
  rw [mergeFilter_nil hdistinct hoperators] at hfilter
  refine ⟨compiled, hcompiled, ?_, ?_⟩
  · intro hnone document matched
    rw [hfilter]
    refine ⟨accepts_landed hnone, ?_⟩
    intro hvoid hmatched
    have hkept : dropEmpty subFilter = subFilter := by
      unfold dropEmpty
      rw [List.filter_eq_self]
      intro field hfield
      simp [hvoid field hfield]
    apply accepts_landed hnone
    rw [hkept]
    exact hmatched
  · rintro ⟨clauses, hclauses⟩ document hmatched
    have hvoid : saysNothing (landed opNone (.array clauses)) = false := by
      rw [saysNothing_landed]
      rfl
    have hfield : landedField (opNone, .array clauses) ∈ compiled.filterOrAll := by
      rw [hfilter, mem_dropEmpty]
      exact ⟨List.mem_map_of_mem hclauses, hvoid⟩
    have hheld := Filter.accepts_eq_ok_true_iff.1 hmatched _ hfield
    rw [landedField, fieldAccepts_landed_none] at hheld
    simp at hheld

/-- What a rule makes of the name of a town: groups, operators and values. -/
def placeFilter (town : String) : Document :=
  [("town", .string town), ("$or", .array [.document [("near", .boolean true)],
      .document [("inside", .boolean true)]]),
    ("price", .document [("$not", .document [("$gt", .int32 9)])]),
    ("hours", .document [("from", .int32 8), ("to", .int32 18)])]

/-- This rule. -/
def placeExpansion : Expansion := fun town => .ok (placeFilter town)

/-- This rule alone. -/
def placeRules : RuleSet := NameMap.ofList [("place", .dynamic placeExpansion)]

/-- A document that matches what it makes of one. -/
def openPlace : Document :=
  [("town", .string "Ulm"), ("inside", .boolean true), ("price", .int32 7),
    ("hours", .document [("to", .int32 18), ("from", .int32 8)])]

/-- The statement for this rule. -/
theorem compile_single_expansion_place :
    ∃ compiled, compile [("page", .int32 2), ("place", .string "Ulm")] placeRules true =
        .ok compiled ∧
      Filter.accepts openPlace compiled.filterOrAll = .ok true := by
  have hrules : placeRules.entries = [("place", .dynamic placeExpansion)] := rfl
  have hinput : Document.get? [("page", .int32 2), ("place", .string "Ulm")] "place" =
      some (.string "Ulm") := rfl
  have hexpand : placeExpansion "Ulm" = .ok (placeFilter "Ulm") := rfl
  have hmatched : Filter.accepts openPlace (placeFilter "Ulm") = .ok true := by rfl
  obtain ⟨compiled, hcompiled, htransparent, -⟩ :=
    compile_single_expansion hrules hinput hexpand (by decide) (by decide)
  exact ⟨compiled, hcompiled, (htransparent (by decide) openPlace true).2 (by decide) hmatched⟩

/-- A rule that makes a group of which no filter may match. -/
def exceptionRules : RuleSet :=
  NameMap.ofList [("except", .dynamic fun text => .ok
    [("$nor", .array [.document [("owner", .string text)]])])]

/-- A rule that asks for a value that is an empty document. -/
def blankRules : RuleSet :=
  NameMap.ofList [("blank", .dynamic fun _ => .ok [("note", .document [])])]

/-- A sub-filter with a `$nor` group evaluates, but the filter made of it fails; and the condition
that a value is an empty document is lost. -/
theorem compile_single_expansion_differs :
    (∃ compiled error, compile [("except", .string "u1")] exceptionRules true = .ok compiled ∧
      Filter.accepts [("owner", .string "u2")]
        [("$nor", .array [.document [("owner", .string "u1")]])] = .ok true ∧
      Filter.accepts [("owner", .string "u2")] compiled.filterOrAll = .error error) ∧
    ∃ compiled, compile [("blank", .string "")] blankRules true = .ok compiled ∧
      Filter.accepts [("note", .int32 1)] [("note", .document [])] = .ok false ∧
      Filter.accepts [("note", .int32 1)] compiled.filterOrAll = .ok true := by
  refine ⟨⟨⟨some [("$nor", .document [("$eq", .array [.document [("owner", .string "u1")]])])], []⟩,
    .backend (.operandNotArray "$nor"), by rfl, by rfl, by rfl⟩, ⟨none, []⟩, by rfl, by rfl, by rfl⟩

end VersionedStore.Params
