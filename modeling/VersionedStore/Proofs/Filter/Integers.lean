import VersionedStore.Proofs.Filter.Evaluation
import VersionedStore.Proofs.Number.NearestInteger

/-!
# Filters on integers

Integers are compared as doubles, and so as the integers that the doubles stand for.

* `Condition.ordered_of_number`: a number stands to an integer as a double does.
* `Condition.ordered_int64`, `Value.looselyEquals_int64`: two integers as what they are rounded to.
* `Filter.accepts_int64`, `Filter.accepts_int64_operator`: the filters for equality and order.
-/

set_option autoImplicit false

namespace VersionedStore

open Double

/-- A 64-bit integer is compared as the double next to it. -/
theorem Value.comparand_int64 (i : Int64) :
    (Value.int64 i).comparand = .number (ofInt i.toInt) := by
  unfold comparand
  rw [Comparand.ofValue]

/-- A number is compared with an integer as a double. -/
theorem Condition.ordered_of_number {accept : Ordering → Bool} {value : Value} {d : Double}
    (hvalue : value.comparand = .number d) (hnumber : d.isNaN = false) (bound : Int64) :
    ordered accept (some value) (.int64 bound) =
      accept (compare d.orderKey (ofInt bound.toInt).orderKey) := by
  unfold ordered
  simp only [hvalue, Value.comparand_int64, Comparand.compare?, Double.compare?, hnumber,
    isNaN_ofInt, Bool.or_self, Bool.false_eq_true, if_false]

/-- Integers are ordered as what they are rounded to. -/
theorem Condition.ordered_int64 (accept : Ordering → Bool) (a b : Int64) :
    ordered accept (some (.int64 a)) (.int64 b) =
      accept (compare (nearestInt a.toInt) (nearestInt b.toInt)) := by
  rw [ordered_of_number (Value.comparand_int64 a) (isNaN_ofInt _),
    compare_orderKey_ofInt (natAbs_toInt_lt a) (natAbs_toInt_lt b)]

/-- Integers are equal if they are rounded to the same. -/
theorem Value.looselyEquals_int64 (a b : Int64) :
    (Value.int64 a).looselyEquals (.int64 b) =
      decide (nearestInt a.toInt = nearestInt b.toInt) := by
  have hkeys := orderKey_ofInt_eq_iff (natAbs_toInt_lt a) (natAbs_toInt_lt b)
  unfold looselyEquals
  rw [comparand_int64, comparand_int64, Comparand.equals, Double.equals, isNaN_ofInt, isNaN_ofInt,
    Bool.eq_iff_iff]
  simp [hkeys]

/-- A name without a point is a path of one name. -/
theorem pathNames_of_not_mem {name : String} (h : '.' ∉ name.toList) : pathNames name = [name] := by
  unfold pathNames
  rw [List.splitOn_eq_singleton h]
  simp

namespace Filter

variable {field : String} {document : Document} {a : Int64}

/-- A filter for an integer matches the integers that are rounded to the same. -/
theorem accepts_int64 (hpoint : '.' ∉ field.toList) (hname : isOperatorName field = false)
    (hfield : Document.get? document field = some (.int64 a)) (b : Int64) :
    accepts document [(field, .int64 b)] =
      .ok (decide (nearestInt a.toInt = nearestInt b.toInt)) := by
  rw [accepts_singleton, fieldAccepts_path hname,
    Document.at?_of_pathNames (pathNames_of_not_mem hpoint), hfield,
    Condition.holds_of_kind_ne (by simp [Value.kind]), Condition.equal_of_not_isArray rfl,
    Value.looselyEquals_int64]

/-- Filters for smaller and for larger integers match those that are rounded to smaller and to
larger ones. -/
theorem accepts_int64_operator (hpoint : '.' ∉ field.toList)
    (hname : isOperatorName field = false)
    (hfield : Document.get? document field = some (.int64 a)) (b : Int64) :
    accepts document [(field, .document [("$lt", .int64 b)])] =
        .ok (decide (nearestInt a.toInt < nearestInt b.toInt)) ∧
      accepts document [(field, .document [("$gt", .int64 b)])] =
        .ok (decide (nearestInt b.toInt < nearestInt a.toInt)) := by
  have hat := Document.at?_of_pathNames (pathNames_of_not_mem hpoint) document
  rw [accepts_operator hname (by decide), accepts_operator hname (by decide), hat, hfield]
  simp only [Condition.operatorHolds, Condition.ordered_int64, beq_eq_decide, compare_lt_iff_lt,
    compare_gt_iff_gt, and_self]

end Filter

end VersionedStore
