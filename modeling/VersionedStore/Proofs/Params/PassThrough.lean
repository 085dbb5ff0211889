import VersionedStore.Proofs.Params.Compilation

/-!
# What a loose compilation passes on

A loose compilation turns the parameters that have no rule into conditions on the fields of the
same names, as they are.

Setting them takes the place of what the rules have made of those fields.  So they narrow the filter
of the strict compilation if their names are not in it, and otherwise they put their own conditions
where those of the rules were.  A parameter is a value to be equal to unless it has the form of a
map of operators, which is evaluated as one, or is empty, which says nothing.

* `accepts_loose_iff`: the filter of the loose compilation by that of the strict one.
* `compile_loose_narrows`: names that the strict filter does not have can only narrow it.
* `compile_of_absent`: without any rule for the parameters they are all passed on.
* `compile_loose_equality`: parameters that are no maps of operators ask for equality.
-/

set_option autoImplicit false

namespace VersionedStore.Params

/-! ### Beside the conditions of the rules -/

/-- The parameters without a rule have no name twice. -/
theorem nodup_withoutRule {input : Document} (rules : RuleSet)
    (hdistinct : (Document.names input).Nodup) :
    (Document.names (withoutRule rules input)).Nodup :=
  hdistinct.sublist (List.filter_sublist.map _)

/-- The two kinds of compilation merge the same filter, on which only the loose one sets the
parameters without a rule. -/
theorem exists_merged {input : Document} {rules : RuleSet} {strict loose : Compiled}
    (hstrict : compile input rules true = .ok strict)
    (hloose : compile input rules false = .ok loose) :
    ∃ merged, (Document.names merged).Nodup ∧ strict.filterOrAll = dropEmpty merged ∧
      loose.filterOrAll = dropEmpty (Document.setAll merged (withoutRule rules input)) := by
  obtain ⟨fields, merged, -, hfields, happlied, hfilter⟩ := compile_eq_ok hstrict
  obtain ⟨fields', merged', -, hfields', happlied', hfilter'⟩ := compile_eq_ok hloose
  -- The stages before the last do not depend on the kind of compilation.
  rw [hfields] at hfields'
  obtain rfl := Except.ok.inj hfields'
  rw [happlied] at happlied'
  obtain ⟨hremaining, rfl⟩ := Prod.mk.inj (Except.ok.inj happlied')
  have hpassed : withoutRule rules loose.remaining = withoutRule rules input := by
    rw [← hremaining]
    exact withoutRule_of_applyDynamic (fun rule => contains_of_mem_dynamicRules) happlied
  refine ⟨merged, ?_, hfilter, ?_⟩
  · exact nodup_applyDynamic (nodup_fieldConditions Document.nodup_names_nil hfields) happlied
  · rw [hfilter', ← hpassed]
    rfl

/-- The filter of the loose compilation matches if the conditions of the strict one hold whose names
are not passed on, and those parameters hold that are passed on and say something. -/
theorem accepts_loose_iff {input : Document} {rules : RuleSet} {strict loose : Compiled}
    (hdistinct : (Document.names input).Nodup) (hstrict : compile input rules true = .ok strict)
    (hloose : compile input rules false = .ok loose) {document : Document} :
    Filter.accepts document loose.filterOrAll = .ok true ↔
      (∀ field ∈ strict.filterOrAll, field.1 ∉ Document.names (withoutRule rules input) →
        Filter.fieldAccepts document field.1 field.2 = .ok true) ∧
      ∀ field ∈ withoutRule rules input, saysNothing field.2 = false →
        Filter.fieldAccepts document field.1 field.2 = .ok true := by
  obtain ⟨merged, hmerged, hstrictFilter, hlooseFilter⟩ := exists_merged hstrict hloose
  have hmem : ∀ field, field ∈ loose.filterOrAll ↔
      (field ∈ withoutRule rules input ∧ saysNothing field.2 = false) ∨
        field ∈ strict.filterOrAll ∧ field.1 ∉ Document.names (withoutRule rules input) := by
    intro field
    rw [hlooseFilter, hstrictFilter, mem_dropEmpty, mem_dropEmpty,
      Document.mem_setAll hmerged (nodup_withoutRule rules hdistinct)]
    tauto
  rw [Filter.accepts_eq_ok_true_iff]
  constructor
  · intro hall
    exact ⟨fun field hfield hname => hall field ((hmem field).2 (.inr ⟨hfield, hname⟩)),
      fun field hfield hsays => hall field ((hmem field).2 (.inl ⟨hfield, hsays⟩))⟩
  · rintro ⟨hrules, hpassed⟩ field hfield
    rcases (hmem field).1 hfield with ⟨hfield, hsays⟩ | ⟨hfield, hname⟩
    · exact hpassed field hfield hsays
    · exact hrules field hfield hname

/-- Let both kinds of compilation succeed.  The loose filter matches a document if all conditions of
the strict filter hold but those on which a parameter without a rule has been set, and if these
parameters hold.  So it narrows the strict filter if the strict filter has none of their names. -/
theorem compile_loose_narrows {input : Document} {rules : RuleSet} {strict loose : Compiled}
    (hdistinct : (Document.names input).Nodup) (hstrict : compile input rules true = .ok strict)
    (hloose : compile input rules false = .ok loose) (document : Document) :
    (Filter.accepts document loose.filterOrAll = .ok true ↔
      (∀ field ∈ strict.filterOrAll, field.1 ∉ Document.names (withoutRule rules input) →
        Filter.fieldAccepts document field.1 field.2 = .ok true) ∧
      ∀ field ∈ withoutRule rules input, saysNothing field.2 = false →
        Filter.fieldAccepts document field.1 field.2 = .ok true) ∧
    ((∀ name ∈ Document.names (withoutRule rules input),
        name ∉ Document.names strict.filterOrAll) →
      Filter.accepts document loose.filterOrAll = .ok true →
      Filter.accepts document strict.filterOrAll = .ok true) := by
  refine ⟨accepts_loose_iff hdistinct hstrict hloose, fun hapart hmatched => ?_⟩
  obtain ⟨hrules, -⟩ := (accepts_loose_iff hdistinct hstrict hloose).1 hmatched
  rw [Filter.accepts_eq_ok_true_iff]
  intro field hfield
  exact hrules field hfield fun hpassed =>
    hapart field.1 hpassed (Document.mem_names_of_mem hfield)

/-- A rule by which a parameter restricts the owner. -/
def ownerRules : RuleSet :=
  NameMap.ofList [("mine", .dynamic fun text => .ok [("owner", .string text)])]

/-- The strict filter for one owner. -/
def ownerFilter : Document := [("owner", .document [("$eq", .string "u1")])]

/-- A parameter on another field narrows the filter for the owner. -/
theorem compile_loose_narrows_owner :
    ∃ loose, compile [("mine", .string "u1"), ("state", .string "open")] ownerRules false =
        .ok loose ∧
      Filter.accepts [("owner", .string "u1"), ("state", .string "open")] loose.filterOrAll =
        .ok true ∧
      Filter.accepts [("owner", .string "u1"), ("state", .string "open")] ownerFilter =
        .ok true := by
  have hdistinct : (Document.names
      [("mine", .string "u1"), ("state", .string "open")]).Nodup := by decide
  have hstrict : compile [("mine", .string "u1"), ("state", .string "open")] ownerRules true =
      .ok ⟨some ownerFilter, [("state", .string "open")]⟩ := by rfl
  have hloose : compile [("mine", .string "u1"), ("state", .string "open")] ownerRules false =
      .ok ⟨some (ownerFilter ++ [("state", .string "open")]), [("state", .string "open")]⟩ := by rfl
  have hmatched : Filter.accepts [("owner", .string "u1"), ("state", .string "open")]
      (ownerFilter ++ [("state", .string "open")]) = .ok true := by rfl
  exact ⟨_, hloose, hmatched,
    (compile_loose_narrows hdistinct hstrict hloose _).2 (by decide) hmatched⟩

/-- A parameter that has the name of the restricted field takes the place of the restriction, so
that documents of another owner match. -/
theorem compile_loose_widens :
    RuleSet.validate ownerRules = .ok () ∧
      ∃ strict loose,
        compile [("mine", .string "u1"), ("owner", .string "u2")] ownerRules true = .ok strict ∧
        compile [("mine", .string "u1"), ("owner", .string "u2")] ownerRules false = .ok loose ∧
        Filter.accepts [("owner", .string "u2")] loose.filterOrAll = .ok true ∧
        Filter.accepts [("owner", .string "u2")] strict.filterOrAll = .ok false := by
  refine ⟨by rfl, ⟨some ownerFilter, [("owner", .string "u2")]⟩,
    ⟨some [("owner", .string "u2")], [("owner", .string "u2")]⟩, by rfl, by rfl, by rfl, by rfl⟩

/-! ### Parameters that no rule reads -/

variable {input : Document}

/-- Parameters without any rule are all passed on. -/
theorem compile_of_absent {rules : RuleSet} (hvalid : RuleSet.validate rules = .ok ())
    (hkeys : ∀ name ∈ Document.names input, rules.contains name = false) :
    ∃ compiled, compile input rules false = .ok compiled ∧
      compiled.filterOrAll = dropEmpty (Document.setAll [] input) := by
  have habsent : ∀ key, rules.contains key = true → Document.get? input key = none := by
    intro key hkey
    rw [Document.get?_eq_none_iff]
    intro hmem
    rw [hkeys key hmem] at hkey
    exact absurd hkey Bool.false_ne_true
  have hfields : fieldConditions input [] (grouped rules) = .ok [] := by
    refine fieldConditions_of_absent (fun group hgroup contribution hcontribution => ?_) []
    rw [(mem_grouped.1 hgroup).2, mem_contributionsTo] at hcontribution
    exact habsent _ (contains_of_mem_contributions hcontribution)
  have happlied : applyDynamic input [] (dynamicRules rules) = .ok (input, []) :=
    applyDynamic_of_absent (fun rule hrule => habsent _ (contains_of_mem_dynamicRules hrule)) []
  obtain ⟨compiled, hcompiled, -, hfilter⟩ := compile_of_stages hvalid hfields happlied false
  refine ⟨compiled, hcompiled, ?_⟩
  rw [hfilter, passedOn, if_neg Bool.false_ne_true, withoutRule_of_absent hkeys]

/-! ### Equality -/

/-- Whether a value has the form of a map of operators. -/
def isOperators : Value → Bool
  | .document fields => Condition.isOperatorMap fields
  | _ => false

/-- What is no map of operators is a value to be equal to. -/
theorem holds_of_isOperators {condition : Value} (h : isOperators condition = false)
    (value : Option Value) :
    Condition.holds value condition = .ok (Condition.equal value condition) := by
  cases condition with
  | document fields =>
    have hmap : ¬ Condition.isOperatorMap fields = true := by
      rw [Bool.not_eq_true]
      exact h
    rw [Condition.holds, if_neg hmap]
  | _ => simp only [Condition.holds]

/-- Take a valid rule set and parameters of which none has a rule or the name of an operator.  The
loose compilation succeeds, and its filter holds what each parameter says as a condition, where
empty documents say nothing.  If no parameter has the form of a map of operators, then on every
document the filter comes to a truth value, and it matches if each parameter that says something
equals the value at its path. -/
theorem compile_loose_equality {rules : RuleSet} (hvalid : RuleSet.validate rules = .ok ())
    (hdistinct : (Document.names input).Nodup)
    (hkeys : ∀ name ∈ Document.names input,
      rules.contains name = false ∧ isOperatorName name = false) :
    ∃ compiled, compile input rules false = .ok compiled ∧ ∀ document,
      (Filter.accepts document compiled.filterOrAll = .ok true ↔
        ∀ field ∈ input, saysNothing field.2 = false →
          Condition.holds (Document.at? document field.1) field.2 = .ok true) ∧
      ((∀ field ∈ input, isOperators field.2 = false) →
        ∃ matched, Filter.accepts document compiled.filterOrAll = .ok matched ∧
          (matched = true ↔ ∀ field ∈ input, saysNothing field.2 = false →
            Condition.equal (Document.at? document field.1) field.2 = true)) := by
  obtain ⟨compiled, hcompiled, hfilter⟩ :=
    compile_of_absent hvalid fun name hname => (hkeys name hname).1
  have hmem : ∀ field, field ∈ compiled.filterOrAll ↔
      field ∈ input ∧ saysNothing field.2 = false := by
    intro field
    rw [hfilter, mem_dropEmpty, Document.mem_setAll Document.nodup_names_nil hdistinct]
    simp
  have hpath : ∀ field ∈ input, ∀ document,
      Filter.fieldAccepts document field.1 field.2 =
        Condition.holds (Document.at? document field.1) field.2 := fun field hfield document =>
    Filter.fieldAccepts_path (hkeys field.1 (Document.mem_names_of_mem hfield)).2 document field.2
  refine ⟨compiled, hcompiled, fun document => ⟨?_, fun hvalues => ?_⟩⟩
  · rw [Filter.accepts_eq_ok_true_iff]
    constructor
    · intro hall field hfield hsays
      rw [← hpath field hfield]
      exact hall field ((hmem field).2 ⟨hfield, hsays⟩)
    · intro hall field hfield
      obtain ⟨hinput, hsays⟩ := (hmem field).1 hfield
      rw [hpath field hinput]
      exact hall field hinput hsays
  · have hdecides : Decides (Filter.accepts document compiled.filterOrAll)
        (∀ field ∈ compiled.filterOrAll,
          Condition.equal (Document.at? document field.1) field.2 = true) := by
      refine Filter.accepts_decides fun field hfield => ?_
      have hinput := ((hmem field).1 hfield).1
      rw [hpath field hinput, holds_of_isOperators (hvalues field hinput)]
      exact ⟨_, rfl, Iff.rfl⟩
    refine hdecides.congr ?_
    simp only [hmem, and_imp]

/-- Parameters of several types, one of them an empty document. -/
def placeParameters : Document :=
  [("place", .document [("x", .int32 1)]), ("note", .document []), ("meta.version", .null)]

/-- These parameters under the rules for an owner. -/
theorem compile_loose_equality_place :
    ∃ compiled, compile placeParameters ownerRules false = .ok compiled ∧
      Filter.accepts [("place", .document [("x", .double (Double.ofInt 1))])]
        compiled.filterOrAll = .ok true := by
  have hvalid : RuleSet.validate ownerRules = .ok () := by rfl
  have hdistinct : (Document.names placeParameters).Nodup := by decide
  have hkeys : ∀ name ∈ Document.names placeParameters,
      ownerRules.contains name = false ∧ isOperatorName name = false := by decide
  obtain ⟨compiled, hcompiled, haccepts⟩ := compile_loose_equality hvalid hdistinct hkeys
  obtain ⟨matched, hmatched, hiff⟩ :=
    (haccepts [("place", .document [("x", .double (Double.ofInt 1))])]).2 (by decide)
  refine ⟨compiled, hcompiled, ?_⟩
  rw [← hiff.2 (by decide)]
  exact hmatched

/-- A map of operators that is sent as a parameter acts as one: it matches a document whose value it
does not equal, and it does not match the one that holds it. -/
theorem compile_loose_reads_operators :
    RuleSet.validate ∅ = .ok () ∧
      ∃ compiled, compile [("age", .document [("$gt", .int32 1)])] ∅ false = .ok compiled ∧
        Filter.accepts [("age", .int32 5)] compiled.filterOrAll = .ok true ∧
        Condition.equal (Document.at? [("age", .int32 5)] "age")
          (.document [("$gt", .int32 1)]) = false ∧
        Filter.accepts [("age", .document [("$gt", .int32 1)])] compiled.filterOrAll =
          .ok false ∧
        Condition.equal (Document.at? [("age", .document [("$gt", .int32 1)])] "age")
          (.document [("$gt", .int32 1)]) = true := by
  refine ⟨by rfl, ⟨some [("age", .document [("$gt", .int32 1)])],
    [("age", .document [("$gt", .int32 1)])]⟩, by rfl, by rfl, by rfl, by rfl, by rfl⟩

end VersionedStore.Params
