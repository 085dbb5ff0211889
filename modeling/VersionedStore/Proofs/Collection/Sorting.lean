import Mathlib.Data.List.Sort
import VersionedStore.Proofs.Value.SortOrder

/-!
# Sorting documents

Documents are sorted by their places under the fields of a specification, the first field on which
two of them differ deciding.  A sort puts them in this order, and those that no field tells apart in
the order in which they were, whatever the direction of the fields.

* `SortOrder.NotAfter`, `SortOrder.Tied`: the order of two documents, field by field.
* `SortOrder.compare_ne_gt_iff`: the comparison of documents decides the order, if no value that they
  are sorted by is a double which is no number.
* `sortDocuments_eq`: a sort is one by the order.
* `pairwise_sortDocuments`, `filter_sortDocuments`: what a sort returns is in order, and ties stay as
  they were.
-/

set_option autoImplicit false

namespace VersionedStore

namespace SortOrder

open Comparand (Place)

/-- The place of a document under a field. -/
def placeAt (ignoreCase : Bool) (path : String) (document : Document) : Place :=
  ((keyAt document path).folded ignoreCase).place

/-- Whether one place comes before another in a direction. -/
def Ahead (direction : Value) (x y : Place) : Prop :=
  if isDescending direction then y < x else x < y

/-- Whether a document does not belong behind another: under the first field where they differ, it
is ahead. -/
def NotAfter (ignoreCase : Bool) : Document → Document → Document → Prop
  | [], _, _ => True
  | (path, direction) :: rest, a, b =>
    Ahead direction (placeAt ignoreCase path a) (placeAt ignoreCase path b) ∨
      placeAt ignoreCase path a = placeAt ignoreCase path b ∧ NotAfter ignoreCase rest a b

/-- Whether no field tells two documents apart. -/
def Tied (ignoreCase : Bool) (specification a b : Document) : Prop :=
  ∀ field ∈ specification, placeAt ignoreCase field.1 a = placeAt ignoreCase field.1 b

/-- Which of two places comes first is decided by comparing them. -/
instance (direction : Value) (x y : Place) : Decidable (Ahead direction x y) :=
  inferInstanceAs (Decidable (if isDescending direction then y < x else x < y))

/-- Whether a document does not belong behind another is decided field by field. -/
instance decidableNotAfter (ignoreCase : Bool) :
    ∀ specification a b, Decidable (NotAfter ignoreCase specification a b)
  | [], _, _ => .isTrue trivial
  | (path, direction) :: rest, a, b =>
    have := decidableNotAfter ignoreCase rest a b
    inferInstanceAs (Decidable (
      Ahead direction (placeAt ignoreCase path a) (placeAt ignoreCase path b) ∨
        placeAt ignoreCase path a = placeAt ignoreCase path b ∧ NotAfter ignoreCase rest a b))

/-- Whether two documents are tied is decided by both orders. -/
instance (ignoreCase : Bool) (specification a b : Document) :
    Decidable (Tied ignoreCase specification a b) :=
  inferInstanceAs (Decidable (∀ field ∈ specification,
    placeAt ignoreCase field.1 a = placeAt ignoreCase field.1 b))

section Order

variable {direction : Value} {x y z : Place} {ignoreCase : Bool}
  {specification a b c : Document}

/-- A place ahead of one that is ahead of a third is ahead of the third. -/
theorem Ahead.trans (hxy : Ahead direction x y) (hyz : Ahead direction y z) :
    Ahead direction x z := by
  unfold Ahead at *
  split
  · rename_i hdescending
    rw [if_pos hdescending] at hxy hyz
    exact hyz.trans hxy
  · rename_i hascending
    rw [if_neg hascending] at hxy hyz
    exact hxy.trans hyz

/-- Of two different places, one is ahead of the other in any direction. -/
theorem ahead_trichotomy (direction : Value) (x y : Place) :
    Ahead direction x y ∨ x = y ∨ Ahead direction y x := by
  unfold Ahead
  split
  · rcases lt_trichotomy x y with hlt | heq | hgt
    · exact .inr (.inr hlt)
    · exact .inr (.inl heq)
    · exact .inl hgt
  · exact lt_trichotomy x y

/-- The order of documents is transitive. -/
theorem NotAfter.trans (hab : NotAfter ignoreCase specification a b)
    (hbc : NotAfter ignoreCase specification b c) : NotAfter ignoreCase specification a c := by
  induction specification with
  | nil => trivial
  | cons field rest ih =>
    obtain ⟨path, direction⟩ := field
    rcases hab with hab | ⟨hab, hrest⟩
    · rcases hbc with hbc | ⟨hbc, -⟩
      · exact .inl (hab.trans hbc)
      · exact .inl (hbc ▸ hab)
    · rcases hbc with hbc | ⟨hbc, hrest'⟩
      · exact .inl (hab ▸ hbc)
      · exact .inr ⟨hab.trans hbc, ih hrest hrest'⟩

/-- Of two documents, one does not belong behind the other. -/
theorem notAfter_total (ignoreCase : Bool) (specification a b : Document) :
    NotAfter ignoreCase specification a b ∨ NotAfter ignoreCase specification b a := by
  induction specification with
  | nil => exact .inl trivial
  | cons field rest ih =>
    obtain ⟨path, direction⟩ := field
    rcases ahead_trichotomy direction (placeAt ignoreCase path a) (placeAt ignoreCase path b) with
      hahead | hsame | hbehind
    · exact .inl (.inl hahead)
    · rcases ih with hrest | hrest
      · exact .inl (.inr ⟨hsame, hrest⟩)
      · exact .inr (.inr ⟨hsame.symm, hrest⟩)
    · exact .inr (.inl hbehind)

/-- Documents that no field tells apart do not belong behind each other. -/
theorem Tied.notAfter (h : Tied ignoreCase specification a b) :
    NotAfter ignoreCase specification a b := by
  induction specification with
  | nil => trivial
  | cons field rest ih =>
    have hhead := h field List.mem_cons_self
    exact .inr ⟨hhead, ih fun other hother => h other (List.mem_cons_of_mem _ hother)⟩

/-- The comparison under one field is that of the places. -/
theorem compareAt_eq (ignoreCase : Bool) (path : String) (direction : Value)
    (ha : (keyAt a path).isNaN = false) (hb : (keyAt b path).isNaN = false) :
    (compareAt ignoreCase path direction a b = .lt ↔
        Ahead direction (placeAt ignoreCase path a) (placeAt ignoreCase path b)) ∧
      (compareAt ignoreCase path direction a b = .eq ↔
        placeAt ignoreCase path a = placeAt ignoreCase path b) := by
  unfold compareAt Ahead
  split
  · rw [compareValues_eq ignoreCase hb ha]
    exact ⟨compare_lt_iff_lt, compare_eq_iff_eq.trans eq_comm⟩
  · rw [compareValues_eq ignoreCase ha hb]
    exact ⟨compare_lt_iff_lt, compare_eq_iff_eq⟩

/-- The comparison of documents decides the order. -/
theorem compare_ne_gt_iff (ha : ∀ field ∈ specification, (keyAt a field.1).isNaN = false)
    (hb : ∀ field ∈ specification, (keyAt b field.1).isNaN = false) :
    compare ignoreCase specification a b ≠ .gt ↔ NotAfter ignoreCase specification a b := by
  induction specification with
  | nil => simp [compare, NotAfter]
  | cons field rest ih =>
    obtain ⟨path, direction⟩ := field
    rw [List.forall_mem_cons] at ha hb
    obtain ⟨hahead, hsame⟩ := compareAt_eq ignoreCase path direction ha.1 hb.1
    rw [compare, NotAfter, ← hahead, ← hsame, ← ih ha.2 hb.2]
    cases compareAt ignoreCase path direction a b <;> simp

end Order

end SortOrder

open SortOrder

section Sorting

variable {ignoreCase : Bool} {specification : Document} {documents : List Document}

/-- A sort is one by the order. -/
theorem sortDocuments_eq (hnumbers : ∀ document ∈ documents, ∀ field ∈ specification,
      (keyAt document field.1).isNaN = false) :
    sortDocuments ignoreCase specification documents =
      documents.mergeSort fun a b => decide (NotAfter ignoreCase specification a b) := by
  have hdecides : ∀ a ∈ documents, ∀ b ∈ documents,
      (SortOrder.compare ignoreCase specification a b != .gt) =
        decide (NotAfter ignoreCase specification a b) := by
    intro a ha b hb
    rw [Bool.eq_iff_iff, bne_iff_ne, decide_eq_true_iff]
    exact compare_ne_gt_iff (hnumbers a ha) (hnumbers b hb)
  have hsorts : (sortDocuments ignoreCase specification documents).map id =
      (documents.map id).mergeSort fun a b => decide (NotAfter ignoreCase specification a b) :=
    List.map_mergeSort hdecides
  simpa using hsorts

section Comparison

variable (ignoreCase) (specification)

/-- The test by which documents are sorted is transitive. -/
theorem decide_notAfter_trans (a b c : Document)
    (hab : decide (NotAfter ignoreCase specification a b) = true)
    (hbc : decide (NotAfter ignoreCase specification b c) = true) :
    decide (NotAfter ignoreCase specification a c) = true :=
  decide_eq_true ((of_decide_eq_true hab).trans (of_decide_eq_true hbc))

/-- The test by which documents are sorted holds of any two documents one way or the other. -/
theorem decide_notAfter_total (a b : Document) :
    (decide (NotAfter ignoreCase specification a b) ||
      decide (NotAfter ignoreCase specification b a)) = true := by
  rw [Bool.or_eq_true, decide_eq_true_iff, decide_eq_true_iff]
  exact notAfter_total ignoreCase specification a b

end Comparison

/-- Of sorted documents, none belongs behind a later one. -/
theorem pairwise_sortDocuments (hnumbers : ∀ document ∈ documents, ∀ field ∈ specification,
      (keyAt document field.1).isNaN = false) :
    (sortDocuments ignoreCase specification documents).Pairwise
      (NotAfter ignoreCase specification) := by
  rw [sortDocuments_eq hnumbers]
  refine (List.pairwise_mergeSort (decide_notAfter_trans ignoreCase specification)
    (decide_notAfter_total ignoreCase specification) documents).imp ?_
  intro a b hab
  exact of_decide_eq_true hab

/-- Documents that no field tells apart stay as they were. -/
theorem filter_sortDocuments (hnumbers : ∀ document ∈ documents, ∀ field ∈ specification,
      (keyAt document field.1).isNaN = false) (document : Document) :
    (sortDocuments ignoreCase specification documents).filter
        (fun row => Tied ignoreCase specification document row) =
      documents.filter fun row => Tied ignoreCase specification document row := by
  rw [sortDocuments_eq hnumbers]
  have hties : (documents.filter fun row => Tied ignoreCase specification document row).Pairwise
      fun a b => decide (NotAfter ignoreCase specification a b) = true := by
    apply List.pairwise_of_forall_mem_list
    intro a ha b hb
    have htied : Tied ignoreCase specification a b := by
      intro field hfield
      have hleft := of_decide_eq_true (List.mem_filter.1 ha).2 field hfield
      have hright := of_decide_eq_true (List.mem_filter.1 hb).2 field hfield
      exact hleft.symm.trans hright
    exact decide_eq_true htied.notAfter
  -- The ties are in order already, so that a stable sort keeps them in a row.
  have hkept := List.sublist_mergeSort (decide_notAfter_trans ignoreCase specification)
    (decide_notAfter_total ignoreCase specification) hties List.filter_sublist
  have hsame := hkept.filter fun row => Tied ignoreCase specification document row
  rw [List.filter_filter] at hsame
  simp only [Bool.and_self] at hsame
  refine (hsame.eq_of_length ?_).symm
  exact ((List.mergeSort_perm documents _).filter _).length_eq.symm

end Sorting

end VersionedStore
