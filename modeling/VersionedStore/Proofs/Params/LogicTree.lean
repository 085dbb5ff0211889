import VersionedStore.Params.Logic
import VersionedStore.Proofs.Filter.Evaluation
import VersionedStore.Proofs.Params.Compilation
import Mathlib.Data.List.Forall2

/-!
# What a tree makes of a filter

A tree joins the conditions of a flat filter.  Leaves of fields that the filter does not have fall
out of the tree, and with them the groups that they leave empty, from the leaves to the root.
What is left has a value once its leaves have one, and the filter that is made of the tree comes
to this value on every document on which the conditions of the leaves come to one.

* `Logic.leaves`: the fields that a tree names.
* `Logic.prune`: what is left of a tree.
* `Logic.value`: the value of a tree by those of its leaves.
* `Logic.fold_eq_none_iff`: nothing is left if the filter has none of the fields.
* `Logic.fold_means`: the filter of a tree has the value of what is left of the tree.
* `compileWith_evaluates`: what this says of a compilation.
-/

set_option autoImplicit false

namespace VersionedStore.Params

namespace Logic

mutual

/-- The fields that the leaves of a tree name. -/
def leaves : Logic → List String
  | .leaf field => [field]
  | .all children => leavesOf children
  | .any children => leavesOf children

/-- The fields that the leaves of some trees name. -/
def leavesOf : List Logic → List String
  | [] => []
  | child :: rest => leaves child ++ leavesOf rest

end

/-- A group, unless it has no children. -/
def nonempty? (group : List Logic → Logic) (children : List Logic) : Option Logic :=
  if children.isEmpty then none else some (group children)

mutual

/-- A tree without the leaves whose fields are absent, and without the groups in which nothing is
left then. -/
def prune (present : String → Bool) : Logic → Option Logic
  | .leaf field => if present field then some (.leaf field) else none
  | .all children => nonempty? .all (pruneEach present children)
  | .any children => nonempty? .any (pruneEach present children)

/-- What is left of some trees. -/
def pruneEach (present : String → Bool) : List Logic → List Logic
  | [] => []
  | child :: rest =>
    match prune present child with
    | some kept => kept :: pruneEach present rest
    | none => pruneEach present rest

end

mutual

/-- The value of a tree whose leaves have values. -/
def value (held : String → Bool) : Logic → Bool
  | .leaf field => held field
  | .all children => allTrue held children
  | .any children => anyTrue held children

/-- Whether all of some trees are true. -/
def allTrue (held : String → Bool) : List Logic → Bool
  | [] => true
  | child :: rest => value held child && allTrue held rest

/-- Whether some of some trees is true. -/
def anyTrue (held : String → Bool) : List Logic → Bool
  | [] => false
  | child :: rest => value held child || anyTrue held rest

end

/-- There is no group if there are no filters for it. -/
theorem group?_eq_none_iff {operator : String} {filters : List Value} :
    group? operator filters = none ↔ filters = [] := by
  unfold group?
  cases filters <;> simp

/-! ### Where nothing is left -/

mutual

/-- Nothing is left of a tree if the filter has none of the fields that it names. -/
theorem fold_eq_none_iff (flat : Document) : (tree : Logic) →
    (fold flat tree = none ↔ ∀ field ∈ leaves tree, Document.get? flat field = none)
  | .leaf field => by simp [fold, leaves]
  | .all children => by
    rw [fold, leaves, group?_eq_none_iff]
    exact foldAll_eq_nil_iff flat children
  | .any children => by
    rw [fold, leaves, group?_eq_none_iff]
    exact foldAll_eq_nil_iff flat children

/-- Nothing is left of some trees if the filter has none of the fields that they name. -/
theorem foldAll_eq_nil_iff (flat : Document) : (trees : List Logic) →
    (foldAll flat trees = [] ↔ ∀ field ∈ leavesOf trees, Document.get? flat field = none)
  | [] => by simp [foldAll, leavesOf]
  | child :: rest => by
    rw [leavesOf, List.forall_mem_append, ← fold_eq_none_iff flat child,
      ← foldAll_eq_nil_iff flat rest, foldAll]
    cases fold flat child <;> simp

end

/-- A group is left out if it has no children. -/
theorem nonempty?_eq_none_iff {group : List Logic → Logic} {children : List Logic} :
    nonempty? group children = none ↔ children = [] := by
  unfold nonempty?
  cases children <;> simp

mutual

/-- Nothing is left of a tree if all fields that it names are absent. -/
theorem prune_eq_none_iff (present : String → Bool) : (tree : Logic) →
    (prune present tree = none ↔ ∀ field ∈ leaves tree, present field = false)
  | .leaf field => by simp [prune, leaves]
  | .all children => by
    rw [prune, leaves, nonempty?_eq_none_iff]
    exact pruneEach_eq_nil_iff present children
  | .any children => by
    rw [prune, leaves, nonempty?_eq_none_iff]
    exact pruneEach_eq_nil_iff present children

/-- Nothing is left of some trees if all fields that they name are absent. -/
theorem pruneEach_eq_nil_iff (present : String → Bool) : (trees : List Logic) →
    (pruneEach present trees = [] ↔ ∀ field ∈ leavesOf trees, present field = false)
  | [] => by simp [pruneEach, leavesOf]
  | child :: rest => by
    rw [leavesOf, List.forall_mem_append, ← prune_eq_none_iff present child,
      ← pruneEach_eq_nil_iff present rest, pruneEach]
    cases prune present child <;> simp

end

/-- A tree makes a filter exactly if something is left of it. -/
theorem exists_prune_of_fold {flat filter : Document} {tree : Logic}
    (h : fold flat tree = some filter) :
    ∃ kept, prune (Document.contains flat) tree = some kept := by
  by_contra hnone
  have habsent := (prune_eq_none_iff (Document.contains flat) tree).1
    (Option.eq_none_iff_forall_ne_some.2 fun kept hkept => hnone ⟨kept, hkept⟩)
  have hfold : fold flat tree = none := by
    rw [fold_eq_none_iff]
    intro field hfield
    exact Option.not_isSome_iff_eq_none.1 (Bool.eq_false_iff.1 (habsent field hfield))
  rw [h] at hfold
  exact absurd hfold (by simp)

/-! ### What is left -/

/-- A filter comes to the value of a tree. -/
def Means (document : Document) (held : String → Bool) (filter : Document) (tree : Logic) : Prop :=
  Filter.accepts document filter = .ok (tree.value held)

/-- A member of a group comes to the value of a tree. -/
def MemberMeans (document : Document) (held : String → Bool) (member : Value) (tree : Logic) :
    Prop :=
  ∃ filter, member = .document filter ∧ Means document held filter tree

section Groups

variable {document : Document} {held : String → Bool} {members : List Value} {trees : List Logic}

/-- The members of a group are filters. -/
theorem checkClauses_of_means (operator : String)
    (h : List.Forall₂ (MemberMeans document held) members trees) :
    Filter.checkClauses operator members = .ok () := by
  induction h with
  | nil => rfl
  | cons hmember _ ih =>
    obtain ⟨filter, rfl, -⟩ := hmember
    exact ih

/-- A conjunction stops at the first member that is false, which does not change its value. -/
theorem allAccept_of_means (h : List.Forall₂ (MemberMeans document held) members trees) :
    Filter.allAccept document members = .ok (allTrue held trees) := by
  induction h with
  | nil => simp only [Filter.allAccept, allTrue]
  | @cons _ tree _ _ hmember _ ih =>
    obtain ⟨filter, rfl, hfilter⟩ := hmember
    rw [Filter.allAccept, hfilter, allTrue]
    cases value held tree with
    | false => rfl
    | true => exact ih

/-- A disjunction stops at the first member that is true, which does not change its value. -/
theorem anyAccepts_of_means (h : List.Forall₂ (MemberMeans document held) members trees) :
    Filter.anyAccepts document members = .ok (anyTrue held trees) := by
  induction h with
  | nil => simp only [Filter.anyAccepts, anyTrue]
  | @cons _ tree _ _ hmember _ ih =>
    obtain ⟨filter, rfl, hfilter⟩ := hmember
    rw [Filter.anyAccepts, hfilter, anyTrue]
    cases value held tree with
    | false => exact ih
    | true => rfl

/-- The group of all members comes to the value of the tree of all, if the members come to those of
its children. -/
theorem means_all (h : List.Forall₂ (MemberMeans document held) members trees) :
    Means document held [(opAll, .array members)] (.all trees) := by
  unfold Means
  rw [Filter.accepts_singleton, value, ← allAccept_of_means h]
  show Filter.fieldAccepts document "$and" (.array members) = _
  rw [Filter.fieldAccepts_all, checkClauses_of_means "$and" h]
  rfl

/-- The group of any member comes to the value of the tree of any, if the members come to those of
its children. -/
theorem means_any (h : List.Forall₂ (MemberMeans document held) members trees) :
    Means document held [(opAny, .array members)] (.any trees) := by
  unfold Means
  rw [Filter.accepts_singleton, value, ← anyAccepts_of_means h]
  show Filter.fieldAccepts document "$or" (.array members) = _
  rw [Filter.fieldAccepts_any, checkClauses_of_means "$or" h]
  rfl

/-- A group of filters is left exactly where a group of trees is. -/
theorem group?_means {operator : String} {group : List Logic → Logic}
    (h : List.Forall₂ (MemberMeans document held) members trees)
    (hgroup : Means document held [(operator, .array members)] (group trees)) :
    Option.Rel (Means document held) (group? operator members) (nonempty? group trees) := by
  unfold group? nonempty?
  cases h with
  | nil => exact .none
  | cons hmember hrest => exact .some hgroup

end Groups

/-- The conditions that a filter has on some fields come to values. -/
def Settles (flat document : Document) (held : String → Bool) (fields : List String) : Prop :=
  ∀ field ∈ fields, ∀ condition, Document.get? flat field = some condition →
    Filter.accepts document [(field, condition)] = .ok (held field)

mutual

/-- Where the conditions of the leaves come to values, the filter of a tree comes to the value of
what is left of the tree. -/
theorem fold_means {flat document : Document} {held : String → Bool} : (tree : Logic) →
    Settles flat document held (leaves tree) →
    Option.Rel (Means document held) (fold flat tree) (prune (Document.contains flat) tree)
  | .leaf field, h => by
    rw [fold, prune, Document.contains]
    cases hcondition : Document.get? flat field with
    | none => exact .none
    | some condition =>
      refine .some ?_
      rw [Means, value]
      exact h field (by simp [leaves]) condition hcondition
  | .all children, h => by
    rw [fold, prune]
    have hchildren := foldAll_means children h
    exact group?_means hchildren (means_all hchildren)
  | .any children, h => by
    rw [fold, prune]
    have hchildren := foldAll_means children h
    exact group?_means hchildren (means_any hchildren)

/-- The filters of some trees come to the values of what is left of the trees. -/
theorem foldAll_means {flat document : Document} {held : String → Bool} :
    (trees : List Logic) → Settles flat document held (leavesOf trees) →
    List.Forall₂ (MemberMeans document held) (foldAll flat trees)
      (pruneEach (Document.contains flat) trees)
  | [], _ => by
    rw [foldAll, pruneEach]
    exact .nil
  | child :: rest, h => by
    rw [leavesOf, Settles, List.forall_mem_append] at h
    have hchild := fold_means child h.1
    have hrest := foldAll_means rest h.2
    rw [foldAll, pruneEach]
    generalize fold flat child = folded at hchild ⊢
    generalize prune (Document.contains flat) child = pruned at hchild ⊢
    cases hchild with
    | none => exact hrest
    | some hmeans => exact .cons ⟨_, rfl, hmeans⟩ hrest

end

end Logic

/-! ### A compilation with a tree -/

/-- Whether what a filter says of one field holds of a document. -/
def fieldHolds (flat document : Document) (field : String) : Bool :=
  match Document.get? flat field with
  | none => false
  | some condition =>
    match Filter.accepts document [(field, condition)] with
    | .error _ => false
    | .ok held => held

/-- Conditions that come to values come to whether they hold. -/
theorem settles_fieldHolds {flat document : Document} {fields : List String}
    (h : ∀ field ∈ fields, ∀ condition, Document.get? flat field = some condition →
      ∃ held, Filter.accepts document [(field, condition)] = .ok held) :
    Logic.Settles flat document (fieldHolds flat document) fields := by
  intro field hfield condition hcondition
  obtain ⟨held, hheld⟩ := h field hfield condition hcondition
  simp only [fieldHolds, hcondition, hheld]

/-- A filter that is joined by a tree is that of the tree, also where there is no filter. -/
theorem bind_fold (compiled : Compiled) (logic : Logic) :
    compiled.filter.bind logic.fold = logic.fold compiled.filterOrAll := by
  unfold Compiled.filterOrAll
  cases compiled.filter with
  | some filter => rfl
  | none =>
    symm
    rw [Option.getD_none, Option.bind_none, Logic.fold_eq_none_iff]
    exact fun field _ => Document.get?_nil field

/-- Take a tree without empty groups and a compilation that succeeds.  With the tree it succeeds too
and leaves the same parameters.  It has no filter if the flat filter has none of the fields that
the tree names.  Otherwise something is left of the tree, and on every document on which the
conditions on these fields come to truth values, the filter comes to the value of what is left. -/
theorem compileWith_evaluates {logic : Logic} {input : Document} {rules : RuleSet} {strict : Bool}
    {compiled : Compiled} (hvalid : logic.validate = .ok ())
    (hcompiled : compile input rules strict = .ok compiled) :
    ∃ joined, compileWith logic input rules strict = .ok joined ∧
      joined.remaining = compiled.remaining ∧
      (joined.filter = none ↔
        ∀ field ∈ logic.leaves, field ∉ Document.names compiled.filterOrAll) ∧
      ∀ filter, joined.filter = some filter →
        ∃ kept, logic.prune (Document.contains compiled.filterOrAll) = some kept ∧
          ∀ document,
            (∀ field ∈ logic.leaves, ∀ condition,
              Document.get? compiled.filterOrAll field = some condition →
                ∃ held, Filter.accepts document [(field, condition)] = .ok held) →
            Filter.accepts document filter =
              .ok (kept.value (fieldHolds compiled.filterOrAll document)) := by
  refine ⟨{ compiled with filter := compiled.filter.bind logic.fold }, ?_, rfl, ?_, ?_⟩
  · unfold compileWith
    simp only [hvalid, hcompiled, bind, Except.bind, pure, Except.pure]
  · rw [bind_fold, Logic.fold_eq_none_iff]
    simp only [Document.get?_eq_none_iff]
  · intro filter hfilter
    replace hfilter : logic.fold compiled.filterOrAll = some filter :=
      (bind_fold compiled logic).symm.trans hfilter
    obtain ⟨kept, hkept⟩ := Logic.exists_prune_of_fold hfilter
    refine ⟨kept, hkept, fun document hdecided => ?_⟩
    have hmeans := Logic.fold_means logic (settles_fieldHolds hdecided)
    rw [hfilter, hkept] at hmeans
    cases hmeans with
    | some hmeans => exact hmeans

/-- Rules for three fields. -/
def choiceRules : RuleSet :=
  NameMap.ofList
    [("a", .field { targets := ["a"], operator := "$eq" }),
      ("b", .field { targets := ["b"], operator := "$eq" }),
      ("c", .field { targets := ["c"], operator := "$gt" })]

/-- Parameters for two of them. -/
def choiceInput : Document := [("a", .int32 1), ("c", .int32 3)]

/-- A choice between all three, in groups of which one is left empty. -/
def choice : Logic := .any [.all [.leaf "a", .leaf "b"], .all [.leaf "b"], .leaf "c"]

/-- The filter of the choice. -/
def choiceFilter : Document :=
  [("$or", .array
    [.document [("$and", .array [.document [("a", .document [("$eq", .int32 1)])]])],
      .document [("c", .document [("$gt", .int32 3)])]])]

/-- The statement for this choice, of which the first part holds. -/
theorem compileWith_evaluates_choice :
    choice.validate = .ok () ∧
      compileWith choice choiceInput choiceRules true = .ok ⟨some choiceFilter, choiceInput⟩ ∧
      Filter.accepts [("a", .int32 1), ("c", .int32 2)] choiceFilter = .ok true := by
  have hvalid : choice.validate = .ok () := by rfl
  have hcompiled : compile choiceInput choiceRules true =
      .ok ⟨some [("a", .document [("$eq", .int32 1)]), ("c", .document [("$gt", .int32 3)])],
        choiceInput⟩ := by rfl
  have hjoined : compileWith choice choiceInput choiceRules true =
      .ok ⟨some choiceFilter, choiceInput⟩ := by rfl
  obtain ⟨joined, hsame, -, -, hevaluates⟩ := compileWith_evaluates hvalid hcompiled
  rw [hjoined] at hsame
  obtain rfl := Except.ok.inj hsame
  obtain ⟨kept, hkept, hdocument⟩ := hevaluates choiceFilter rfl
  obtain rfl : Logic.any [.all [.leaf "a"], .leaf "c"] = kept := Option.some.inj hkept
  refine ⟨hvalid, hjoined, hdocument _ ?_⟩
  intro field hfield condition hcondition
  have hnamed : field = "a" ∨ field = "b" ∨ field = "c" := by
    simpa [choice, Logic.leaves, Logic.leavesOf] using hfield
  rcases hnamed with rfl | rfl | rfl
  · obtain rfl := Option.some.inj hcondition
    exact ⟨true, by rfl⟩
  · cases hcondition
  · obtain rfl := Option.some.inj hcondition
    exact ⟨false, by rfl⟩

end VersionedStore.Params
