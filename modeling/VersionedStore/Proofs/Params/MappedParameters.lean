import VersionedStore.Proofs.Params.Compilation

/-!
# What a strict compilation reads

A strict compilation looks nothing up but keys that have a rule, and it goes through the rules in
the order of their keys.  So its outcome depends neither on other parameters, nor on the order in
which parameters come, nor on the order in which rules have been added.

* `AgreeOn`: two inputs that are looked up alike under some keys.
* `ofList_congr`: rules that have been added in two orders make the same rule set if each key has
  the same last rule.
* `fieldConditions_congr`, `applyDynamic_congr`: each stage looks up the keys of its rules.
* `compile_strict_congr`: the filter or the error, for two inputs and two orders of rules.
-/

set_option autoImplicit false

namespace VersionedStore.Params

/-- Two inputs that are looked up alike under some keys. -/
def AgreeOn (read : String → Prop) (input input' : Document) : Prop :=
  ∀ key, read key → Document.get? input key = Document.get? input' key

/-- The rule that a key is left with when rules are added one after another. -/
def lastRule? (added : List (String × Rule)) (key : String) : Option Rule :=
  NameMap.lookupEntry key added.reverse

/-- Rules make the same rule set in any order in which each key has the same last rule. -/
theorem ofList_congr {added added' : List (String × Rule)}
    (h : ∀ key, lastRule? added key = lastRule? added' key) :
    NameMap.ofList added = NameMap.ofList added' := by
  refine NameMap.ext_get? fun key => ?_
  rw [NameMap.get?_ofList_eq, NameMap.get?_ofList_eq]
  exact h key

/-- A key has a rule if a rule has been added for it. -/
theorem contains_ofList (added : List (String × Rule)) (key : String) :
    (NameMap.ofList added).contains key = (lastRule? added key).isSome := by
  unfold NameMap.contains
  rw [NameMap.get?_ofList_eq]
  rfl

section Stages

variable {read : String → Prop} {input input' : Document}

/-- Inputs that agree do so once the same key is taken away from both. -/
theorem AgreeOn.erase (h : AgreeOn read input input') (key : String) :
    AgreeOn read (Document.erase input key) (Document.erase input' key) := by
  intro other hother
  rw [Document.get?_erase, Document.get?_erase, h other hother]

/-- The operators of a field depend on the keys of its contributions only. -/
theorem gatherOperators_congr (h : AgreeOn read input input') {several : List Contribution}
    (hkeys : ∀ contribution ∈ several, read contribution.key) (condition : Option Document) :
    gatherOperators input condition several = gatherOperators input' condition several := by
  induction several generalizing condition with
  | nil => rfl
  | cons contribution rest ih =>
    rw [List.forall_mem_cons] at hkeys
    unfold gatherOperators
    rw [h _ hkeys.1]
    simp only [ih hkeys.2]

/-- The condition on a target looks up the keys of its contributions. -/
theorem conditionOf_congr (h : AgreeOn read input input') {several : List Contribution}
    (hkeys : ∀ contribution ∈ several, read contribution.key) :
    conditionOf input several = conditionOf input' several := by
  match several, hkeys with
  | [], _ => rfl
  | [contribution], hkeys =>
    simp only [conditionOf, h _ (hkeys contribution List.mem_cons_self)]
  | first :: second :: rest, hkeys => exact gatherOperators_congr h hkeys none

/-- Field rules look up their keys. -/
theorem fieldConditions_congr (h : AgreeOn read input input')
    {groups : List (String × List Contribution)}
    (hkeys : ∀ group ∈ groups, ∀ contribution ∈ group.2, read contribution.key)
    (result : Document) :
    fieldConditions input result groups = fieldConditions input' result groups := by
  induction groups generalizing result with
  | nil => rfl
  | cons group rest ih =>
    rw [List.forall_mem_cons] at hkeys
    unfold fieldConditions
    rw [conditionOf_congr h hkeys.1]
    simp only [ih hkeys.2]

/-- Dynamic rules look up their keys.  They leave inputs behind that may differ in other keys, but
merge the same filter. -/
theorem applyDynamic_congr (h : AgreeOn read input input') {dynamic : List (String × Expansion)}
    (hkeys : ∀ rule ∈ dynamic, read rule.1) (result : Document) :
    (applyDynamic input result dynamic).map Prod.snd =
      (applyDynamic input' result dynamic).map Prod.snd := by
  induction dynamic generalizing input input' result with
  | nil => rfl
  | cons rule rest ih =>
    obtain ⟨key, expand⟩ := rule
    rw [List.forall_mem_cons] at hkeys
    unfold applyDynamic
    rw [h key hkeys.1]
    cases Document.get? input' key with
    | none => exact ih h hkeys.2 result
    | some raw =>
      cases hconverted : convertText key raw expand with
      | error error => simp only [hconverted]
      | ok subFilter =>
        simp only [hconverted]
        exact ih (h.erase key) hkeys.2 _

end Stages

/-- A strict compilation looks up the keys of its rules. -/
theorem compile_strict_of_agreeOn {rules : RuleSet} {input input' : Document}
    (h : AgreeOn (fun key => rules.contains key = true) input input') :
    (compile input rules true).map Compiled.filter =
      (compile input' rules true).map Compiled.filter := by
  have hfields : fieldConditions input [] (grouped rules) =
      fieldConditions input' [] (grouped rules) := by
    refine fieldConditions_congr h (fun group hgroup contribution hcontribution => ?_) []
    rw [(mem_grouped.1 hgroup).2, mem_contributionsTo] at hcontribution
    exact contains_of_mem_contributions hcontribution
  have happlied : ∀ result, (applyDynamic input result (dynamicRules rules)).map Prod.snd =
      (applyDynamic input' result (dynamicRules rules)).map Prod.snd :=
    applyDynamic_congr h fun rule => contains_of_mem_dynamicRules
  unfold compile
  rw [hfields]
  cases RuleSet.validate rules with
  | error error => rfl
  | ok valid =>
    cases fieldConditions input' [] (grouped rules) with
    | error error => rfl
    | ok fields =>
      specialize happlied fields
      cases hleft : applyDynamic input fields (dynamicRules rules) <;>
        cases hright : applyDynamic input' fields (dynamicRules rules) <;>
        simp_all [Except.map, bind, Except.bind, pure, Except.pure]

/-- Let rules be added in two orders that leave each key with the same last rule, and let two inputs
be looked up alike under every key that has a rule.  Then the strict compilations of the two fail
with the same error, or they succeed with the same filter. -/
theorem compile_strict_congr {added added' : List (String × Rule)} {input input' : Document}
    (hrules : ∀ key, lastRule? added key = lastRule? added' key)
    (hinput : ∀ key, (lastRule? added key).isSome = true →
      Document.get? input key = Document.get? input' key) :
    (∃ error, compile input (NameMap.ofList added) true = .error error ∧
      compile input' (NameMap.ofList added') true = .error error) ∨
    ∃ compiled compiled', compile input (NameMap.ofList added) true = .ok compiled ∧
      compile input' (NameMap.ofList added') true = .ok compiled' ∧
      compiled.filter = compiled'.filter := by
  have hread : AgreeOn (fun key => (NameMap.ofList added).contains key = true) input input' := by
    intro key hkey
    exact hinput key (contains_ofList added key ▸ hkey)
  have heq := compile_strict_of_agreeOn hread
  rw [← ofList_congr hrules]
  cases hleft : compile input (NameMap.ofList added) true with
  | error error =>
    cases hright : compile input' (NameMap.ofList added) true with
    | error error' =>
      rw [hleft, hright] at heq
      obtain rfl := Except.error.inj heq
      exact .inl ⟨error, rfl, rfl⟩
    | ok compiled' =>
      rw [hleft, hright] at heq
      simp [Except.map] at heq
  | ok compiled =>
    cases hright : compile input' (NameMap.ofList added) true with
    | error error' =>
      rw [hleft, hright] at heq
      simp [Except.map] at heq
    | ok compiled' =>
      rw [hleft, hright] at heq
      exact .inr ⟨compiled, compiled', rfl, rfl, Except.ok.inj heq⟩

/-- Rules for a least size and for an owner.  The first rule for the size does not stay. -/
def sizeFirst : List (String × Rule) :=
  [("size", .field { targets := ["size"], operator := "$lt" }),
    ("mine", .dynamic fun text => .ok [("owner", .string text)]),
    ("size", .field { targets := ["size"], operator := "$gte" })]

/-- The same rules in another order. -/
def sizeLast : List (String × Rule) :=
  [("mine", .dynamic fun text => .ok [("owner", .string text)]),
    ("size", .field { targets := ["size"], operator := "$gte" })]

/-- The statement for these rules, for two inputs in different orders and with other parameters
besides. -/
theorem compile_strict_congr_sizes :
    ∃ compiled, compile [("page", .int32 3), ("size", .int32 7), ("mine", .string "u1")]
        (NameMap.ofList sizeLast) true = .ok compiled ∧
      compiled.filter = some [("size", .document [("$gte", .int32 7)]),
        ("owner", .document [("$eq", .string "u1")])] := by
  have hrules : ∀ key, lastRule? sizeFirst key = lastRule? sizeLast key := by
    intro key
    by_cases hkey : key = "size" <;>
      simp [lastRule?, sizeFirst, sizeLast, NameMap.lookupEntry, hkey]
  have hinput : ∀ key, (lastRule? sizeFirst key).isSome = true →
      Document.get? [("mine", .string "u1"), ("size", .int32 7), ("owner", .string "u2")] key =
        Document.get? [("page", .int32 3), ("size", .int32 7), ("mine", .string "u1")] key := by
    intro key hkey
    by_cases hsize : key = "size"
    · rw [hsize]
      rfl
    · by_cases hmine : key = "mine"
      · rw [hmine]
        rfl
      · simp [lastRule?, sizeFirst, NameMap.lookupEntry, hsize, hmine] at hkey
  have hfirst : compile [("mine", .string "u1"), ("size", .int32 7), ("owner", .string "u2")]
      (NameMap.ofList sizeFirst) true =
        .ok ⟨some [("size", .document [("$gte", .int32 7)]),
          ("owner", .document [("$eq", .string "u1")])],
        [("size", .int32 7), ("owner", .string "u2")]⟩ := by rfl
  rcases compile_strict_congr hrules hinput with ⟨error, herror, -⟩ | ⟨_, compiled, hok, hlast, heq⟩
  · rw [hfirst] at herror
    simp at herror
  · rw [hfirst] at hok
    obtain rfl := Except.ok.inj hok
    exact ⟨compiled, hlast, heq.symm⟩

end VersionedStore.Params
