import VersionedStore.Proofs.Params.Compilation
import VersionedStore.Proofs.Params.RuleAtoms

/-!
# Compilation is conjunction

A strict compilation makes one filter of everything that its rules ask for: the atoms of the field
rules and those of the sub-filters that dynamic rules return.  The filter matches a document if
all of these atoms do, whichever way they have been grouped and merged.

* `subFilters`: what the dynamic rules return whose keys are in the input.
* `askedAtoms`, `askedPairs`: everything that the rules ask for.
* `Represents.applyDynamic`: dynamic rules add the atoms of their sub-filters.
* `compile_strict_iff`: the compiled filter is the conjunction of the atoms.
-/

set_option autoImplicit false

namespace VersionedStore.Params

/-- What a dynamic rule returns, if its key is in the input. -/
def subFilter? (input : Document) (rule : String × Expansion) : Option Document :=
  match Document.get? input rule.1 with
  | some (.string text) => (rule.2 text).toOption
  | _ => none

/-- The sub-filters that dynamic rules return whose keys are in the input. -/
def subFilters (rules : RuleSet) (input : Document) : List Document :=
  rules.entries.filterMap fun entry =>
    match entry.2 with
    | .field _ => none
    | .dynamic expand => subFilter? input (entry.1, expand)

/-- The atoms that rules ask for. -/
def askedAtoms (rules : RuleSet) (input : Document) : List Atom :=
  ruleAtoms rules input ++ (subFilters rules input).flatMap filterAtoms

/-- The operators that rules contribute, each with its field. -/
def askedPairs (rules : RuleSet) (input : Document) : List (String × String) :=
  rulePairs rules input ++ (subFilters rules input).flatMap filterPairs

/-- A compilation applies the rules that return the sub-filters. -/
theorem subFilters_eq (rules : RuleSet) (input : Document) :
    subFilters rules input = (dynamicRules rules).filterMap (subFilter? input) := by
  unfold subFilters dynamicRules
  rw [List.filterMap_filterMap]
  refine List.filterMap_congr fun entry _ => ?_
  obtain ⟨key, rule⟩ := entry
  cases rule <;> rfl

/-- Where no target of a field rule is an operator and every operator is one, that is so of the
contributions. -/
theorem forall_contributions {rules : RuleSet}
    (hrules : ∀ key rule, (key, Rule.field rule) ∈ rules.entries → ∀ target ∈ rule.targets,
      isOperatorName target = false ∧ isOperatorName rule.operator = true) :
    ∀ entry ∈ contributions rules,
      isOperatorName entry.1 = false ∧ isOperatorName entry.2.operator = true := by
  intro entry hentry
  obtain ⟨⟨key, rule⟩, hrule, hentry⟩ := List.mem_flatMap.1 hentry
  cases rule with
  | dynamic expand => simp at hentry
  | field rule =>
    obtain ⟨target, htarget, rfl⟩ := List.mem_map.1 hentry
    exact hrules key rule hrule target htarget

/-- The keys of dynamic rules are distinct. -/
theorem nodup_dynamicRules (rules : RuleSet) : ((dynamicRules rules).map Prod.fst).Nodup := by
  unfold dynamicRules
  rw [List.map_filterMap, List.Nodup, List.pairwise_filterMap]
  refine rules.sorted.imp ?_
  rintro ⟨key, rule⟩ ⟨other, otherRule⟩ hlt name hname name' hname'
  cases rule with
  | field rule => simp at hname
  | dynamic expand =>
    cases otherRule with
    | field rule => simp at hname'
    | dynamic otherExpand =>
      obtain rfl : key = name := by simpa using hname
      obtain rfl : other = name' := by simpa using hname'
      exact ne_of_lt hlt

/-- A rule whose key is in the input and that can read it returns a sub-filter. -/
theorem subFilter?_of_convertText {input subFilter : Document} {key : String} {value : Value}
    {expand : Expansion} (hvalue : Document.get? input key = some value)
    (hconverted : convertText key value expand = .ok subFilter) :
    subFilter? input (key, expand) = some subFilter := by
  unfold convertText at hconverted
  unfold subFilter?
  rw [hvalue]
  split at hconverted
  · rename_i text
    cases hexpanded : expand text with
    | error reason => simp [hexpanded, Except.mapError] at hconverted
    | ok found =>
      rw [hexpanded] at hconverted
      obtain rfl := Except.ok.inj hconverted
      simp [hexpanded, Except.toOption]
  · simp at hconverted

/-- A key that is taken away is read by none of the rules with other keys. -/
theorem filterMap_subFilter?_erase {key : String} {rules : List (String × Expansion)}
    (hkey : key ∉ rules.map Prod.fst) (input : Document) :
    rules.filterMap (subFilter? (Document.erase input key)) =
      rules.filterMap (subFilter? input) := by
  refine List.filterMap_congr fun rule hrule => ?_
  have hne : rule.1 ≠ key := by
    rintro rfl
    exact hkey (List.mem_map_of_mem hrule)
  unfold subFilter?
  rw [Document.get?_erase, if_neg hne]

/-- Dynamic rules add the atoms of the sub-filters that they return. -/
theorem Represents.applyDynamic {document input result remaining merged : Document}
    {atoms : List Atom} {pairs : List (String × String)}
    (h : Represents document result atoms pairs) {rules : List (String × Expansion)}
    (happlied : Params.applyDynamic input result rules = .ok (remaining, merged))
    (hkeys : (rules.map Prod.fst).Nodup)
    (hadmissible : ∀ subFilter ∈ rules.filterMap (subFilter? input),
      ∀ field ∈ subFilter, Admissible field.1 field.2)
    (hdecided : ∀ atom ∈ (rules.filterMap (subFilter? input)).flatMap filterAtoms,
      ∃ held, atom.accepts document = .ok held)
    (hdistinct : (pairs ++ (rules.filterMap (subFilter? input)).flatMap filterPairs).Nodup) :
    Represents document merged (atoms ++ (rules.filterMap (subFilter? input)).flatMap filterAtoms)
      (pairs ++ (rules.filterMap (subFilter? input)).flatMap filterPairs) := by
  induction rules generalizing input result atoms pairs with
  | nil =>
    obtain ⟨-, rfl⟩ := Prod.mk.inj (Except.ok.inj happlied)
    simpa using h
  | cons rule rest ih =>
    obtain ⟨key, expand⟩ := rule
    rw [List.map_cons, List.nodup_cons] at hkeys
    rcases applyDynamic_cons_eq_ok happlied with
      ⟨hraw, hrest⟩ | ⟨raw, subFilter, hraw, hconverted, hrest⟩
    · have hnone : subFilter? input (key, expand) = none := by
        unfold subFilter?
        rw [hraw]
      rw [List.filterMap_cons_none hnone] at *
      exact ih h hrest hkeys.2 hadmissible hdecided hdistinct
    · rw [List.filterMap_cons_some (subFilter?_of_convertText hraw hconverted)] at *
      rw [List.flatMap_cons, List.forall_mem_append] at hdecided
      rw [List.flatMap_cons, ← List.append_assoc] at hdistinct
      rw [List.forall_mem_cons] at hadmissible
      have hfirst := h.mergeFilter hadmissible.1 hdecided.1 hdistinct.of_append_left
      -- The key has been taken away, which no other rule reads.
      rw [← filterMap_subFilter?_erase hkeys.1 input] at hadmissible hdecided hdistinct ⊢
      rw [List.flatMap_cons, List.flatMap_cons, ← List.append_assoc, ← List.append_assoc]
      exact ih hfirst hrest hkeys.2 hadmissible.2 hdecided.2 hdistinct

/-- A strict compilation sets the conditions on the targets, applies the dynamic rules and drops
what says nothing. -/
theorem compile_strict_eq_ok {input : Document} {rules : RuleSet} {compiled : Compiled}
    (h : compile input rules true = .ok compiled) :
    ∃ fields merged, fieldConditions input [] (grouped rules) = .ok fields ∧
      applyDynamic input fields (dynamicRules rules) = .ok (compiled.remaining, merged) ∧
      compiled.filterOrAll = dropEmpty merged := by
  obtain ⟨fields, merged, -, hfields, happlied, hfilter⟩ := compile_eq_ok h
  exact ⟨fields, merged, hfields, happlied, hfilter⟩

/-- Take a strict compilation that succeeds.  Let no target of a field rule start with a dollar sign
and every operator do, let the sub-filters have groups, plain values and maps of operators only,
and let no operator be contributed to a field twice.  Then on every document on which each atom
comes to a truth value, the compiled filter does, and it matches if all atoms match. -/
theorem compile_strict_iff {input : Document} {rules : RuleSet} {compiled : Compiled}
    (hcompiled : compile input rules true = .ok compiled)
    (hrules : ∀ key rule, (key, Rule.field rule) ∈ rules.entries → ∀ target ∈ rule.targets,
      isOperatorName target = false ∧ isOperatorName rule.operator = true)
    (hadmissible : ∀ subFilter ∈ subFilters rules input, ∀ field ∈ subFilter,
      Admissible field.1 field.2)
    (hdistinct : (askedPairs rules input).Nodup) {document : Document}
    (hdecided : ∀ atom ∈ askedAtoms rules input, ∃ held, atom.accepts document = .ok held) :
    ∃ matched, Filter.accepts document compiled.filterOrAll = .ok matched ∧
      (matched = true ↔ ∀ atom ∈ askedAtoms rules input, atom.accepts document = .ok true) := by
  obtain ⟨fields, merged, hfields, happlied, hfilter⟩ := compile_strict_eq_ok hcompiled
  unfold askedAtoms at hdecided ⊢
  unfold askedPairs at hdistinct
  rw [List.forall_mem_append] at hdecided
  -- What the rules ask for is what their contributions and expansions ask for.
  rw [subFilters_eq] at hadmissible
  rw [ruleAtoms_eq, subFilters_eq] at hdecided ⊢
  rw [rulePairs_eq, subFilters_eq] at hdistinct
  have hstart := fieldConditions_represents hfields (forall_contributions hrules)
    hdistinct.of_append_left hdecided.1
  have hmerged := hstart.applyDynamic happlied (nodup_dynamicRules rules) hadmissible hdecided.2
    hdistinct
  rw [hfilter]
  exact hmerged.accepts_dropEmpty

/-! ### A compilation that merges disjunctions -/

/-- Bounds on a size from two keys, of which one is written as a text, kinds that may be null, a
pattern for two fields, and two rules that return filters with disjunctions and with a condition on
the size. -/
def listingRules : RuleSet :=
  NameMap.ofList
    [("from", .field { targets := ["size"], operator := "$gte", convert := some Convert.int }),
      ("to", .field { targets := ["size"], operator := "$lte" }),
      ("kinds", .field { targets := ["kind"], operator := "$in" }),
      ("pattern", .field { targets := ["title", "body"], operator := "$regex" }),
      ("near", .dynamic fun _ => .ok
        [("$or", .array [.document [("x", .int32 1)], .document [("y", .int32 1)]]),
          ("size", .document [("$ne", .int32 5)])]),
      ("open", .dynamic fun _ => .ok
        [("$or", .array [.document [("state", .string "open")], .document [("state", .null)]]),
          ("$and", .array [.document [("x", .int32 1)]]), ("owner", .string "me")])]

/-- Parameters for all of these rules. -/
def listingInput : Document :=
  [("from", .string " 2"), ("to", .int32 9), ("kinds", .null), ("pattern", .string "^$"),
    ("near", .string "home"), ("open", .string "yes")]

/-- The filter that is made of them. -/
def listingFilter : Document :=
  [("size", .document [("$gte", .int64 2), ("$lte", .int32 9), ("$ne", .int32 5)]),
    ("title", .document [("$regex", .string "^$"), ("$options", .string "i")]),
    ("body", .document [("$regex", .string "^$"), ("$options", .string "i")]),
    ("$and", .array
      [.document [("$or", .array [.document [("x", .int32 1)], .document [("y", .int32 1)]])],
        .document [("$or", .array
          [.document [("state", .string "open")], .document [("state", .null)]])],
        .document [("x", .int32 1)]]),
    ("owner", .document [("$eq", .string "me")])]

/-- A document that matches. -/
def listedDocument : Document :=
  [("x", .int32 1), ("size", .int32 4), ("state", .string "open"), ("owner", .string "me"),
    ("title", .string ""), ("body", .string "")]

/-- What the compilation makes of the parameters. -/
def listingCompiled : Compiled :=
  ⟨some listingFilter,
    [("from", .string " 2"), ("to", .int32 9), ("kinds", .null), ("pattern", .string "^$")]⟩

/-- The statement for nine atoms, which a document matches: one has an operand that a converter has
read, two are those of one rule for two fields, and null asks for none. -/
theorem compile_strict_iff_listing :
    compile listingInput listingRules true = .ok listingCompiled ∧
      (askedAtoms listingRules listingInput).length = 9 ∧
      Filter.accepts listedDocument listingFilter = .ok true := by
  have hcompiled : compile listingInput listingRules true = .ok listingCompiled := by rfl
  have hresults : (askedAtoms listingRules listingInput).map (Atom.accepts listedDocument) =
      List.replicate 9 (.ok true) := by rfl
  have hall : ∀ atom ∈ askedAtoms listingRules listingInput,
      atom.accepts listedDocument = .ok true := by
    intro atom hatom
    have hmem := List.mem_map_of_mem (f := Atom.accepts listedDocument) hatom
    rw [hresults] at hmem
    exact List.eq_of_mem_replicate hmem
  have hrules : ∀ key rule, (key, Rule.field rule) ∈ listingRules.entries →
      ∀ target ∈ rule.targets,
        isOperatorName target = false ∧ isOperatorName rule.operator = true := by
    intro key rule hrule
    have hmem : (key, Rule.field rule) ∈ [(_, _), (_, _), (_, _), (_, _), (_, _), (_, _)] := hrule
    simp only [List.mem_cons, List.not_mem_nil, or_false] at hmem
    rcases hmem with h | h | h | h | h | h <;> cases h <;> decide
  obtain ⟨matched, hmatched, hiff⟩ := compile_strict_iff hcompiled hrules (by decide)
    (by decide) fun atom hatom => ⟨true, hall atom hatom⟩
  refine ⟨hcompiled, by rfl, ?_⟩
  rw [← hiff.2 hall]
  exact hmatched

end VersionedStore.Params
