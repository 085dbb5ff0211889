import VersionedStore.Proofs.Filter.Connective
import VersionedStore.Proofs.Value.Reordering

/-!
# Filters do not see the order of fields

A filter is evaluated in the order of its fields, and stops at the first one that decides.  In
another order it may come upon a mistake that it has not seen before, or miss one that it has.  But
if it comes to a truth value in both orders, it is the same: where it is true all fields are, and
where it is false one is, so that an order in which it is true would have had to pass that one.

For this the form of a condition must not depend on the order, which the name that comes first
decides: all names of a document that stands as a condition are those of operators, or none is.

* `Agree`: results that have no different truth values.
* `conjunction_agree`, `disjunction_agree`: the connectives, whose results may be in another order.
* `Condition.Uniform`, `Filter.Uniform`: conditions whose form does not depend on the order.
* `Condition.holds_agree`: conditions in another order.
* `Filter.accepts_reordered`: filters and documents in another order.
-/

set_option autoImplicit false

namespace VersionedStore

/-- Results that are the same truth value, or of which one is an error. -/
def Agree (result result' : Result Bool) : Prop :=
  ∀ held held', result = .ok held → result' = .ok held' → held = held'

section Connectives

variable {results results' : List (Result Bool)}

/-- Equal results agree. -/
theorem Agree.of_eq {result result' : Result Bool} (h : result = result') :
    Agree result result' := by
  subst h
  intro held held' hheld hheld'
  exact Except.ok.inj (hheld.symm.trans hheld')

/-- Results that agree do so when both are negated. -/
theorem Agree.map_not {result result' : Result Bool} (h : Agree result result') :
    Agree (result.map fun held => !held) (result'.map fun held => !held) := by
  intro held held' hheld hheld'
  cases result with
  | error error => simp [Except.map] at hheld
  | ok first =>
    cases result' with
    | error error => simp [Except.map] at hheld'
    | ok second =>
      have hsame : first = second := h first second rfl rfl
      rw [← Except.ok.inj hheld, ← Except.ok.inj hheld', hsame]

/-- Conjunctions agree if each result of either agrees with one of the other. -/
theorem conjunction_agree (hleft : ∀ result ∈ results, ∃ result' ∈ results', Agree result result')
    (hright : ∀ result' ∈ results', ∃ result ∈ results, Agree result result') :
    Agree (conjunction results) (conjunction results') := by
  intro held held' hheld hheld'
  cases held with
  | true =>
    cases held' with
    | true => rfl
    | false =>
      obtain ⟨result, hresult, hagree⟩ := hright _ (mem_of_conjunction_eq_ok_false hheld')
      exact hagree true false (conjunction_eq_ok_true_iff.1 hheld result hresult) rfl
  | false =>
    cases held' with
    | false => rfl
    | true =>
      obtain ⟨result', hresult', hagree⟩ := hleft _ (mem_of_conjunction_eq_ok_false hheld)
      exact hagree false true rfl (conjunction_eq_ok_true_iff.1 hheld' result' hresult')

/-- Disjunctions agree if each result of either agrees with one of the other. -/
theorem disjunction_agree (hleft : ∀ result ∈ results, ∃ result' ∈ results', Agree result result')
    (hright : ∀ result' ∈ results', ∃ result ∈ results, Agree result result') :
    Agree (disjunction results) (disjunction results') := by
  intro held held' hheld hheld'
  cases held with
  | false =>
    cases held' with
    | false => rfl
    | true =>
      obtain ⟨result, hresult, hagree⟩ := hright _ (mem_of_disjunction_eq_ok_true hheld')
      exact hagree false true (disjunction_eq_ok_false_iff.1 hheld result hresult) rfl
  | true =>
    cases held' with
    | true => rfl
    | false =>
      obtain ⟨result', hresult', hagree⟩ := hleft _ (mem_of_disjunction_eq_ok_true hheld)
      exact hagree true false rfl (disjunction_eq_ok_false_iff.1 hheld' result' hresult')

end Connectives

/-- The fields of a document must all pass a test, in either order. -/
theorem conjunction_agree_of_fields {fields fields' : Document}
    (h : Value.Reordered (.document fields) (.document fields'))
    {test test' : String × Value → Result Bool}
    (htest : ∀ name value value', (name, value) ∈ fields → (name, value') ∈ fields' →
      Value.Reordered value value' → Agree (test (name, value)) (test' (name, value'))) :
    Agree (conjunction (fields.map test)) (conjunction (fields'.map test')) := by
  apply conjunction_agree
  · intro result hresult
    obtain ⟨⟨name, value⟩, hfield, rfl⟩ := List.mem_map.1 hresult
    obtain ⟨value', hfield', hvalue⟩ := h.exists_field hfield
    exact ⟨_, List.mem_map_of_mem hfield', htest name value value' hfield hfield' hvalue⟩
  · intro result' hresult'
    obtain ⟨⟨name, value'⟩, hfield', rfl⟩ := List.mem_map.1 hresult'
    obtain ⟨value, hfield, hvalue⟩ := h.symm.exists_field hfield'
    exact ⟨_, List.mem_map_of_mem hfield, htest name value value' hfield hfield' hvalue.symm⟩

/-! ### Tests on values in another order -/

/-- A test that does not see the order passes some item of an array in both orders or in none. -/
theorem Value.Reordered.any_congr {items items' : List Value}
    (h : Reordered (.array items) (.array items')) {test test' : Value → Bool}
    (htest : ∀ item item', Reordered item item' → test item = test' item') :
    items.any test = items'.any test' := by
  have hrows := h.forall₂
  clear h
  induction hrows with
  | nil => rfl
  | cons hitem _ ih => rw [List.any_cons, List.any_cons, htest _ _ hitem, ih]

namespace Condition

open Value (Reordered)

section Tests

variable {value value' : Option Value} {operand operand' : Value}

/-- Equality with an operand does not see the order of fields. -/
theorem equal_congr (hvalue : Option.Rel Reordered value value')
    (hoperand : Reordered operand operand') : equal value operand = equal value' operand' := by
  cases hvalue with
  | none => cases hoperand <;> rfl
  | some hvalue =>
    unfold equal
    dsimp only
    rw [hvalue.comparand, hoperand.comparand]

/-- The order to an operand does not see the order of fields. -/
theorem ordered_congr (accept : Ordering → Bool) (hvalue : Option.Rel Reordered value value')
    (hoperand : Reordered operand operand') :
    ordered accept value operand = ordered accept value' operand' := by
  cases hvalue with
  | none => rfl
  | some hvalue =>
    unfold ordered
    dsimp only
    rw [hvalue.comparand, hoperand.comparand]

/-- Whether presence is asked for does not depend on the order of fields. -/
theorem asksForPresence_congr (hoperand : Reordered operand operand') :
    asksForPresence operand = asksForPresence operand' := by
  cases hoperand <;> rfl

/-- Membership in the items of an operand does not see the order of fields, nor does what is made of
it. -/
theorem operandItems_congr (operator : String) (finish : Bool → Bool)
    (hvalue : Option.Rel Reordered value value') (hoperand : Reordered operand operand') :
    (operandItems operator operand).map (fun items => finish (items.any (equal value))) =
      (operandItems operator operand').map fun items => finish (items.any (equal value')) := by
  have hitems : ∀ items items', Reordered (.array items) (.array items') →
      finish (items.any (equal value)) = finish (items'.any (equal value')) := by
    intro items items' hsame
    rw [hsame.any_congr fun item item' hitem => equal_congr hvalue hitem]
  cases hoperand with
  | same =>
    cases operand with
    | array items => exact congrArg Except.ok (hitems items items (.same _))
    | _ => rfl
  | @array items items' hlength hsame =>
    exact congrArg Except.ok (hitems items items' (.array hlength hsame))
  | document => rfl

/-- The pattern of an operand with its options does not depend on the order of fields. -/
theorem patternOf_congr {options options' : Option Value} (hoperand : Reordered operand operand')
    (hoptions : Option.Rel Reordered options options') :
    patternOf operand options = patternOf operand' options' := by
  cases hoperand with
  | same =>
    cases hoptions with
    | none => rfl
    | some hletters => cases hletters <;> rfl
  | array => rfl
  | document => rfl

/-- Whether a pattern occurs in a value does not depend on the order of fields. -/
theorem containsPattern_congr (pattern : Pattern.Node) (hvalue : Option.Rel Reordered value value') :
    containsPattern pattern value = containsPattern pattern value' := by
  cases hvalue with
  | none => rfl
  | some hvalue =>
    cases hvalue with
    | same => rfl
    | document => rfl
    | array hlength hitems =>
      apply (Reordered.array hlength hitems).any_congr
      intro item item' hitem
      cases hitem <;> rfl

/-- An operator that holds of a value holds of it in another order, unless one of the two is an
error. -/
theorem operatorHolds_agree {beside beside' : Document} (operator : String)
    (hvalue : Option.Rel Reordered value value')
    (hbeside : Reordered (.document beside) (.document beside'))
    (hoperand : Reordered operand operand') {inner inner' : Unit → Result Bool}
    (hinner : operator = "$not" → Agree (inner ()) (inner' ())) :
    Agree (operatorHolds value beside operator operand inner)
      (operatorHolds value' beside' operator operand' inner') := by
  by_cases hnot : operator = "$not"
  · subst hnot
    exact (hinner rfl).map_not
  have hpresent : ∀ {found found' : Option Value}, Option.Rel Reordered found found' →
      found.isSome = found'.isSome := by
    intro found found' hfound
    cases hfound <;> rfl
  have hpattern : Document.contains beside "$regex" = Document.contains beside' "$regex" :=
    hpresent (hbeside.get? "$regex")
  have hcontains : (fun pattern => containsPattern pattern value) =
      fun pattern => containsPattern pattern value' :=
    funext fun pattern => containsPattern_congr pattern hvalue
  apply Agree.of_eq
  unfold operatorHolds
  split
  · rw [equal_congr hvalue hoperand]
  · rw [equal_congr hvalue hoperand]
  · rw [ordered_congr _ hvalue hoperand]
  · rw [ordered_congr _ hvalue hoperand]
  · rw [ordered_congr _ hvalue hoperand]
  · rw [ordered_congr _ hvalue hoperand]
  · exact operandItems_congr "$in" id hvalue hoperand
  · exact operandItems_congr "$nin" not hvalue hoperand
  · rw [hpresent hvalue, asksForPresence_congr hoperand]
  · exact absurd rfl hnot
  · rw [patternOf_congr hoperand (hbeside.get? "$options"), hcontains]
  · rw [hpattern]
  · rfl

end Tests

/-! ### Conditions -/

/-- A condition whose form does not depend on the order of its fields: every document that stands as
a condition in it is a map of operators, or has no operator at all. -/
inductive Uniform : Value → Prop
  | plain {condition : Value} (hkind : condition.kind ≠ .document) : Uniform condition
  | named {fields : Document} (hnames : ∀ name ∈ Document.names fields, isOperatorName name = false) :
      Uniform (.document fields)
  | operators {fields : Document}
      (hnames : ∀ name ∈ Document.names fields, isOperatorName name = true)
      (hnot : ∀ operand, ("$not", operand) ∈ fields → Uniform operand) :
      Uniform (.document fields)

/-- Whether a uniform document is a map of operators does not depend on the order. -/
theorem Uniform.isOperatorMap_congr {fields fields' : Document} (huniform : Uniform (.document fields))
    (hnames : (Document.names fields).Perm (Document.names fields')) :
    isOperatorMap fields = isOperatorMap fields' := by
  have hfirst : ∀ name ∈ Document.names fields, ∀ name' ∈ Document.names fields,
      isOperatorName name = isOperatorName name' := by
    intro name hname name' hname'
    cases huniform with
    | plain hkind => exact absurd rfl hkind
    | named hnamed => rw [hnamed name hname, hnamed name' hname']
    | operators hoperators => rw [hoperators name hname, hoperators name' hname']
  match fields, fields' with
  | [], [] => rfl
  | [], _ :: _ => simp at hnames
  | _ :: _, [] => simp at hnames
  | field :: rest, field' :: rest' =>
    exact hfirst field.1 List.mem_cons_self field'.1 (hnames.mem_iff.2 List.mem_cons_self)

/-- A condition comes to the same of a value in another order, and so does one in another order. -/
theorem holds_agree {value value' : Option Value} {condition condition' : Value}
    (huniform : Uniform condition) (hvalue : Option.Rel Reordered value value')
    (hcondition : Reordered condition condition') :
    Agree (holds value condition) (holds value' condition') := by
  induction huniform generalizing condition' with
  | @plain condition hkind =>
    have hkind' : condition'.kind ≠ .document := by
      cases hcondition with
      | same => exact hkind
      | array => exact nofun
      | document => exact absurd rfl hkind
    rw [holds_of_kind_ne hkind, holds_of_kind_ne hkind', equal_congr hvalue hcondition]
    exact .of_eq rfl
  | @named fields hnames =>
    obtain ⟨fields', rfl, hnames'⟩ := hcondition.exists_document
    have hmap : isOperatorMap fields = false := by
      cases fields with
      | nil => rfl
      | cons field rest => exact hnames field.1 List.mem_cons_self
    have hmap' := (Uniform.named hnames).isOperatorMap_congr hnames'
    rw [holds_of_not_map hmap, holds_of_not_map (hmap'.symm.trans hmap),
      equal_congr hvalue hcondition]
    exact .of_eq rfl
  | @operators fields hnames hnot ih =>
    obtain ⟨fields', rfl, hnames'⟩ := hcondition.exists_document
    have hmap' := (Uniform.operators hnames hnot).isOperatorMap_congr hnames'
    cases hmap : isOperatorMap fields with
    | false =>
      rw [holds_of_not_map hmap, holds_of_not_map (hmap'.symm.trans hmap),
        equal_congr hvalue hcondition]
      exact .of_eq rfl
    | true =>
      rw [holds_of_map hmap, holds_of_map (hmap'.symm.trans hmap)]
      apply conjunction_agree_of_fields hcondition
      intro operator operand operand' hentry hentry' hoperand
      apply operatorHolds_agree operator hvalue hcondition hoperand
      rintro rfl
      exact ih operand hentry hoperand

end Condition

/-! ### Filters -/

namespace Filter

open Value (Reordered)

/-- A filter whose conditions have a form that does not depend on the order, in its groups too. -/
inductive Uniform : Document → Prop
  | intro {filter : Document}
      (hpaths : ∀ path condition, (path, condition) ∈ filter → isOperatorName path = false →
        Condition.Uniform condition)
      (hgroups : ∀ name clauses member, (name, .array clauses) ∈ filter → name ∈ groupNames →
        .document member ∈ clauses → Uniform member) :
      Uniform filter

/-- A group makes results that agree of members that agree, in whatever order they stand. -/
theorem groupResult_agree (name : String) {results results' : List (Result Bool)}
    (hleft : ∀ result ∈ results, ∃ result' ∈ results', Agree result result')
    (hright : ∀ result' ∈ results', ∃ result ∈ results, Agree result result') :
    Agree (groupResult name results) (groupResult name results') := by
  unfold groupResult
  split
  · exact conjunction_agree hleft hright
  split
  · exact disjunction_agree hleft hright
  · exact (disjunction_agree hleft hright).map_not

/-- An array of documents in another order, document by document. -/
theorem exists_filter_of_mem {filters filters' : List Document} {member : Document}
    (h : Reordered (.array (filters.map .document)) (.array (filters'.map .document)))
    (hmember : member ∈ filters) :
    ∃ member' ∈ filters', Reordered (.document member) (.document member') := by
  obtain ⟨clause', hclause', hsame⟩ := h.exists_item (List.mem_map_of_mem hmember)
  obtain ⟨member', hmember', rfl⟩ := List.mem_map.1 hclause'
  exact ⟨member', hmember', hsame⟩

/-- A filter and a document in another order come to no other truth value. -/
theorem accepts_agree {document document' filter filter' : Document}
    (hdocument : Reordered (.document document) (.document document')) (huniform : Uniform filter)
    (hfilter : Reordered (.document filter) (.document filter')) :
    Agree (accepts document filter) (accepts document' filter') := by
  induction huniform generalizing filter' with
  | @intro filter hpaths hgroups ih =>
    rw [accepts_eq_conjunction, accepts_eq_conjunction]
    apply conjunction_agree_of_fields hfilter
    intro name condition condition' hfield hfield' hcondition
    dsimp only
    cases hoperator : isOperatorName name with
    | false =>
      rw [fieldAccepts_path hoperator, fieldAccepts_path hoperator]
      exact Condition.holds_agree (hpaths name condition hfield hoperator) (hdocument.at? name)
        hcondition
    | true =>
      by_cases hname : name ∈ groupNames
      · intro held held' hheld hheld'
        obtain ⟨filters, rfl⟩ := exists_filters_of_group hname hheld
        obtain ⟨filters', rfl⟩ := exists_filters_of_group hname hheld'
        have hmember : ∀ member ∈ filters, ∀ member',
            Reordered (.document member) (.document member') →
              Agree (accepts document member) (accepts document' member') := by
          intro member hmember member' hsame
          exact ih name _ member hfield hname (List.mem_map_of_mem hmember) hsame
        rw [fieldAccepts_group hname] at hheld hheld'
        refine groupResult_agree name ?_ ?_ held held' hheld hheld'
        · intro result hresult
          obtain ⟨member, hin, rfl⟩ := List.mem_map.1 hresult
          obtain ⟨member', hin', hsame⟩ := exists_filter_of_mem hcondition hin
          exact ⟨_, List.mem_map_of_mem hin', hmember member hin member' hsame⟩
        · intro result' hresult'
          obtain ⟨member', hin', rfl⟩ := List.mem_map.1 hresult'
          obtain ⟨member, hin, hsame⟩ := exists_filter_of_mem hcondition.symm hin'
          exact ⟨_, List.mem_map_of_mem hin, hmember member hin member' hsame.symm⟩
      · rw [fieldAccepts_of_unsupported hoperator hname]
        intro held held' hheld hheld'
        cases hheld

/-- Take a filter in which every document that stands as a condition is a map of operators or has no
operator at all.  If it comes to a truth value on a document, and with its fields and those of the
document in another order, at any depth, it comes to one again, it is the same. -/
theorem accepts_reordered {document document' filter filter' : Document}
    (hdocument : Reordered (.document document) (.document document'))
    (hfilter : Reordered (.document filter) (.document filter')) (huniform : Uniform filter)
    (h : ∃ matched, accepts document filter = .ok matched)
    (h' : ∃ matched, accepts document' filter' = .ok matched) :
    accepts document filter = accepts document' filter' := by
  obtain ⟨matched, hmatched⟩ := h
  obtain ⟨matched', hmatched'⟩ := h'
  have hsame : matched = matched' :=
    accepts_agree hdocument huniform hfilter matched matched' hmatched hmatched'
  rw [hmatched, hmatched', hsame]

/-- A place with an address. -/
def placeAt (address : Document) : Document :=
  [("price", .int32 7), ("address", .document address)]

/-- An address. -/
def townFirst : Document := [("town", .string "Ulm"), ("code", .int32 89073)]

/-- The same address. -/
def townLast : Document := [("code", .int32 89073), ("town", .string "Ulm")]

/-- A filter for places at an address that do not cost what others do. -/
def affordable (address others : Document) : Document :=
  [("$nor", .array [.document others]), ("address", .document [("$in", .array [.document address])])]

/-- A filter for places with a price in a range. -/
def costly : Document := [("price", .document [("$gt", .int32 9), ("$lt", .int32 20)])]

/-- The same filter. -/
def costly' : Document := [("price", .document [("$lt", .int32 20), ("$gt", .int32 9)])]

/-- The two spellings of the range differ in the order of their operators only. -/
theorem reordered_costly : Reordered (.document costly) (.document costly') := by
  have hrange : Reordered (.document [("$gt", .int32 9), ("$lt", .int32 20)])
      (.document [("$lt", .int32 20), ("$gt", .int32 9)]) :=
    .of_perm (by decide) (.swap _ _ _) (.cons ⟨rfl, .same _⟩ (.cons ⟨rfl, .same _⟩ .nil))
  exact .of_perm (by decide) (.refl _) (.cons ⟨rfl, hrange⟩ .nil)

/-- Every condition of the filter for affordable places is a map of operators, in its group too. -/
theorem uniform_affordable : Uniform (affordable townFirst costly) := by
  have hcostly : Uniform costly := by
    refine .intro ?_ ?_
    · intro path condition hfield _
      obtain ⟨-, rfl⟩ : path = "price" ∧ condition = _ := by simpa [costly] using hfield
      exact .operators (by decide) (by simp)
    · intro name clauses member hfield
      simp [costly] at hfield
  refine .intro ?_ ?_
  · intro path condition hfield hpath
    rcases List.mem_cons.1 hfield with hfirst | hlast
    · obtain ⟨rfl, -⟩ := Prod.mk.inj hfirst
      exact absurd hpath (by decide)
    · obtain ⟨-, rfl⟩ := Prod.mk.inj (List.mem_singleton.1 hlast)
      exact .operators (by decide) (by simp)
  · intro name clauses member hfield _ hmember
    obtain ⟨-, rfl⟩ : name = "$nor" ∧ clauses = [.document costly] := by
      simpa [affordable] using hfield
    obtain rfl : member = costly := by simpa using hmember
    exact hcostly

/-- The statement for such a filter. -/
theorem accepts_reordered_place :
    accepts (placeAt townFirst) (affordable townFirst costly) =
      accepts (placeAt townLast) (affordable townLast costly').reverse := by
  have htown : Reordered (.document townFirst) (.document townLast) :=
    .of_perm (by decide) (.swap _ _ _) (.cons ⟨rfl, .same _⟩ (.cons ⟨rfl, .same _⟩ .nil))
  have hplace : Reordered (.document (placeAt townFirst)) (.document (placeAt townLast)) :=
    .of_perm (by decide) (.refl _) (.cons ⟨rfl, .same _⟩ (.cons ⟨rfl, htown⟩ .nil))
  have haddress : Reordered (.document [("$in", .array [.document townFirst])])
      (.document [("$in", .array [.document townLast])]) :=
    .of_perm (by decide) (.refl _) (.cons ⟨rfl, .of_forall₂ (.cons htown .nil)⟩ .nil)
  have hfilter : Reordered (.document (affordable townFirst costly))
      (.document (affordable townLast costly').reverse) :=
    .of_perm (by decide) (.swap _ _ _) (.cons ⟨rfl, haddress⟩
      (.cons ⟨rfl, .of_forall₂ (.cons reordered_costly .nil)⟩ .nil))
  exact accepts_reordered hplace hfilter uniform_affordable ⟨true, by rfl⟩ ⟨true, by rfl⟩

end Filter

end VersionedStore
