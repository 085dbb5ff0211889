import VersionedStore.Value.Comparand
import VersionedStore.Proofs.Number.Rounding

/-!
# Equality as comparisons see it

* `Comparand.equals_comm`: equality of comparands is symmetric.
* `Double.equals_self`: a double equals itself exactly if it is a number.
* `Value.looselyEquals_self`: strings, object ids and 32-bit integers equal themselves.
-/

set_option autoImplicit false

namespace VersionedStore

namespace Double

/-- Equality of doubles is symmetric. -/
theorem equals_comm (a b : Double) : a.equals b = b.equals a := by
  unfold equals
  rw [Bool.and_comm (!a.isNaN), BEq.comm (a := a.orderKey)]

/-- A double equals itself exactly if it is a number. -/
theorem equals_self (d : Double) : d.equals d = !d.isNaN := by
  simp [equals]

end Double

namespace Comparand

mutual

/-- Equality of comparands is symmetric. -/
theorem equals_comm (a b : Comparand) : a.equals b = b.equals a := by
  cases a with
  | array items =>
    cases b with
    | array others =>
      simp only [equals]
      exact equalsItems_comm items others
    | _ => simp only [equals]
  | document entries =>
    cases b with
    | document others =>
      simp only [equals]
      exact equalsEntries_comm entries others
    | _ => simp only [equals]
  | number d =>
    cases b with
    | number e =>
      simp only [equals]
      exact Double.equals_comm d e
    | _ => simp only [equals]
  | _ => cases b <;> simp only [equals, BEq.comm]

/-- Equality of rows of comparands is symmetric. -/
theorem equalsItems_comm (as bs : List Comparand) : equalsItems as bs = equalsItems bs as := by
  cases as with
  | nil => cases bs <;> simp only [equalsItems]
  | cons a as =>
    cases bs with
    | nil => simp only [equalsItems]
    | cons b bs =>
      simp only [equalsItems]
      rw [equals_comm a b, equalsItems_comm as bs]

/-- Equality of rows of entries is symmetric. -/
theorem equalsEntries_comm (as bs : List (String × Comparand)) :
    equalsEntries as bs = equalsEntries bs as := by
  cases as with
  | nil => cases bs <;> simp only [equalsEntries]
  | cons a as =>
    obtain ⟨name, value⟩ := a
    cases bs with
    | nil => simp only [equalsEntries]
    | cons b bs =>
      obtain ⟨other, held⟩ := b
      simp only [equalsEntries]
      rw [equals_comm value held, equalsEntries_comm as bs, BEq.comm (a := name)]

end

end Comparand

namespace Value

/-- Loose equality of values is symmetric. -/
theorem looselyEquals_comm (a b : Value) : a.looselyEquals b = b.looselyEquals a :=
  Comparand.equals_comm a.comparand b.comparand

/-- The types of values that serve as plain identities. -/
def isPlainId : Value → Bool
  | .string _ => true
  | .objectId _ => true
  | .int32 _ => true
  | _ => false

/-- A plain identity equals itself. -/
theorem looselyEquals_self {id : Value} (h : id.isPlainId = true) : id.looselyEquals id = true := by
  unfold looselyEquals comparand
  cases id with
  | string s => simp [Comparand.ofValue, Comparand.equals]
  | objectId o => simp [Comparand.ofValue, Comparand.equals]
  | int32 i =>
    simp only [Comparand.ofValue, Comparand.equals]
    rw [Double.equals_self, Double.isNaN_ofInt]
    rfl
  | _ => simp [isPlainId] at h

/-- Whether a value is an array, whose items conditions look at one by one. -/
def isArray : Value → Bool
  | .array _ => true
  | _ => false

/-- What a plain identity equals is no array. -/
theorem not_isArray_of_looselyEquals {id value : Value} (hplain : id.isPlainId = true)
    (h : id.looselyEquals value = true) : value.isArray = false := by
  cases value with
  | array items =>
    unfold looselyEquals comparand at h
    cases id <;> simp [isPlainId, Comparand.ofValue, Comparand.equals] at hplain h
  | _ => rfl

/-- No plain identity is an array. -/
theorem not_isArray_of_isPlainId {id : Value} (h : id.isPlainId = true) : id.isArray = false :=
  not_isArray_of_looselyEquals h (looselyEquals_self h)

end Value

end VersionedStore
