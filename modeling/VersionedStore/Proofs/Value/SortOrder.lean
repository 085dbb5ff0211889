import Mathlib.Data.Prod.Lex
import Mathlib.Data.String.Basic
import VersionedStore.Collection.Find
import VersionedStore.Proofs.Number.Rounding

/-!
# The order of values in a sort

Values of one type are sorted by content and values of different types by type.  Each comparand but
that of a double which is no number has a place in a linear order, and the sort order is that of the
places.  All arrays share one place, and so do all documents.  A double which is no number has no
place: it ties with every number, so that ties do not add up.

* `Comparand.place`: the type, then a number, then a text.
* `Comparand.sortOrder_eq`: the sort order of comparands is the order of their places.
* `Comparand.sortOrder_self`, `Comparand.sortOrder_swap`: a comparand ties with itself, and two
  comparands are in opposite orders from either side.
* `Comparand.sortOrder_eq_gt_iff`: between which comparands the order is not transitive.
* `Value.sortOrder_laws`, `Value.sortOrder_not_transitive`: so it is with values.
* `SortOrder.compareValues_eq`: where case is ignored, texts are sorted as in small letters.
-/

set_option autoImplicit false

namespace VersionedStore

/-- Doubles that are numbers are in the order of their keys. -/
theorem Double.compare?_of_numbers {a b : Double} (ha : a.isNaN = false) (hb : b.isNaN = false) :
    a.compare? b = some (compare a.orderKey b.orderKey) := by
  unfold Double.compare?
  rw [if_neg (by simp [ha, hb])]

/-- Ids are in the order of their words. -/
theorem ObjectId.order_eq (a b : ObjectId) :
    a.order b = compare (a.word.toNat : ℤ) b.word.toNat := by
  unfold ObjectId.order
  rcases lt_trichotomy a.word.toNat b.word.toNat with hlt | heq | hgt
  · rw [compare_lt_iff_lt.2 hlt, compare_lt_iff_lt.2 (Int.ofNat_lt.2 hlt)]
  · rw [heq, compare_eq_iff_eq.2 rfl, compare_eq_iff_eq.2 rfl]
  · rw [compare_gt_iff_gt.2 hgt, compare_gt_iff_gt.2 (Int.ofNat_lt.2 hgt)]

namespace Comparand

/-- Whether a comparand is that of a double which is no number. -/
def isNaN : Comparand → Bool
  | .number d => d.isNaN
  | _ => false

/-- The number that orders a comparand among those of its type. -/
def numeral : Comparand → ℤ
  | .boolean b => b.toNat
  | .number d => d.orderKey
  | .dateTime milliseconds => milliseconds.toInt
  | .objectId id => id.word.toNat
  | .null | .string _ | .array _ | .document _ => 0

/-- The text that orders a comparand among those of its type. -/
def text : Comparand → String
  | .string s => s
  | _ => ""

/-- The places, in the order of their first part, then of the second, then of the third. -/
abbrev Place := ℕ ×ₗ ℤ ×ₗ String

/-- The place of a comparand among all: by type, then by number, then by text. -/
def place (comparand : Comparand) : Place :=
  toLex (comparand.rank, toLex (comparand.numeral, comparand.text))

variable {a b c : Comparand}

/-- Places are compared by type, then by number, then by text. -/
theorem compare_place (a b : Comparand) :
    compare a.place b.place =
      (compare a.rank b.rank).then ((compare a.numeral b.numeral).then
        (compare a.text b.text)) := rfl

/-- Comparands of different types are in the order of their types. -/
theorem sortOrder_of_rank_ne (h : a.rank ≠ b.rank) : a.sortOrder b = compare a.rank b.rank := by
  cases a <;> cases b <;> first | rfl | exact absurd rfl h

/-- Comparands of one type are in the order of their content. -/
theorem sortOrder_of_rank_eq (ha : a.isNaN = false) (hb : b.isNaN = false) (h : a.rank = b.rank) :
    a.sortOrder b = (compare a.numeral b.numeral).then (compare a.text b.text) := by
  have hnumeral : ∀ x y : ℤ, (compare x y).then (compare "" "") = compare x y := by
    intro x y
    have hempty : compare "" "" = .eq := compare_eq_iff_eq.2 rfl
    rw [hempty, Ordering.then_eq]
  have htext : ∀ x y : String, (compare (0 : ℤ) 0).then (compare x y) = compare x y :=
    fun x y => rfl
  cases a <;> cases b <;> simp [rank] at h
  case null.null => rfl
  case boolean.boolean x y => cases x <;> cases y <;> rfl
  case number.number x y =>
    simp only [sortOrder, compare?, Double.compare?_of_numbers ha hb, numeral, text, hnumeral]
  case dateTime.dateTime x y => simp only [sortOrder, compare?, numeral, text, hnumeral]
  case string.string x y => simp only [sortOrder, compare?, numeral, text, htext]
  case objectId.objectId x y =>
    simp only [sortOrder, compare?, ObjectId.order_eq, numeral, text, hnumeral]
  case array.array => rfl
  case document.document => rfl

/-- The sort order of comparands is the order of their places. -/
theorem sortOrder_eq (ha : a.isNaN = false) (hb : b.isNaN = false) :
    a.sortOrder b = compare a.place b.place := by
  rw [compare_place]
  by_cases h : a.rank = b.rank
  · have hsame : compare a.rank b.rank = .eq := compare_eq_iff_eq.2 h
    rw [sortOrder_of_rank_eq ha hb h, hsame]
    rfl
  · rw [sortOrder_of_rank_ne h]
    cases horder : compare a.rank b.rank with
    | eq => exact absurd (compare_eq_iff_eq.1 horder) h
    | lt => rfl
    | gt => rfl

/-- A double which is no number is in the order of the types. -/
theorem sortOrder_of_isNaN (h : a.isNaN = true ∨ b.isNaN = true) :
    a.sortOrder b = compare a.rank b.rank := by
  by_cases hrank : a.rank = b.rank
  · cases a <;> cases b <;> simp [rank, isNaN] at hrank h
    case number.number x y =>
      have hnone : x.compare? y = none := by
        unfold Double.compare?
        rw [if_pos (by simpa using h)]
      simp only [sortOrder, compare?, hnone]
  · exact sortOrder_of_rank_ne hrank

/-- A comparand ties with itself. -/
theorem sortOrder_self (a : Comparand) : a.sortOrder a = .eq := by
  cases ha : a.isNaN with
  | true =>
    rw [sortOrder_of_isNaN (.inl ha)]
    exact compare_eq_iff_eq.2 rfl
  | false =>
    rw [sortOrder_eq ha ha]
    exact compare_eq_iff_eq.2 rfl

/-- Two comparands are in opposite orders from either side. -/
theorem sortOrder_swap (a b : Comparand) : b.sortOrder a = (a.sortOrder b).swap := by
  by_cases hnumbers : a.isNaN = false ∧ b.isNaN = false
  · rw [sortOrder_eq hnumbers.1 hnumbers.2, sortOrder_eq hnumbers.2 hnumbers.1]
    exact Std.OrientedOrd.eq_swap
  · have hnan : a.isNaN = true ∨ b.isNaN = true := by
      rw [not_and_or, Bool.not_eq_false, Bool.not_eq_false] at hnumbers
      exact hnumbers
    rw [sortOrder_of_isNaN hnan, sortOrder_of_isNaN hnan.symm]
    exact Std.OrientedOrd.eq_swap

/-- What is not behind another is of no later type. -/
theorem rank_le_of_sortOrder (h : a.sortOrder b ≠ .gt) : a.rank ≤ b.rank := by
  by_cases hrank : a.rank = b.rank
  · exact hrank.le
  · rw [sortOrder_of_rank_ne hrank] at h
    exact compare_le_iff_le.1 h

/-- Where the order is not transitive, all three are of one type. -/
theorem rank_eq_of_sortOrder (hab : a.sortOrder b ≠ .gt) (hbc : b.sortOrder c ≠ .gt)
    (hgt : a.sortOrder c = .gt) : a.rank = b.rank ∧ b.rank = c.rank := by
  have hfirst := rank_le_of_sortOrder hab
  have hsecond := rank_le_of_sortOrder hbc
  have hback : c.rank ≤ a.rank := by
    apply rank_le_of_sortOrder
    rw [sortOrder_swap, hgt]
    nofun
  omega

/-- Through a comparand with a place, the order is transitive. -/
theorem sortOrder_trans (hb : b.isNaN = false) (hab : a.sortOrder b ≠ .gt)
    (hbc : b.sortOrder c ≠ .gt) : a.sortOrder c ≠ .gt := by
  intro hgt
  obtain ⟨hfirst, hsecond⟩ := rank_eq_of_sortOrder hab hbc hgt
  -- Of one type, the outer two would tie if one of them had no place.
  have hplaces : ¬(a.isNaN = true ∨ c.isNaN = true) := by
    intro hnan
    rw [sortOrder_of_isNaN hnan, hfirst.trans hsecond, compare_gt_iff_gt] at hgt
    exact lt_irrefl _ hgt
  rw [not_or, Bool.not_eq_true, Bool.not_eq_true] at hplaces
  rw [sortOrder_eq hplaces.1 hb, compare_le_iff_le] at hab
  rw [sortOrder_eq hb hplaces.2, compare_le_iff_le] at hbc
  rw [sortOrder_eq hplaces.1 hplaces.2, compare_gt_iff_gt] at hgt
  exact absurd (hab.trans hbc) (not_le.2 hgt)

/-- Only numbers have the rank of numbers. -/
theorem exists_number_of_rank (h : a.rank = 1) : ∃ d, a = .number d := by
  cases a <;> simp [rank] at h
  case number d => exact ⟨d, rfl⟩

/-- Take a first comparand that is not behind a second, which is not behind a third.  The first is
behind the third exactly if these are numbers, the first the larger, and the second is none. -/
theorem sortOrder_eq_gt_iff (hab : a.sortOrder b ≠ .gt) (hbc : b.sortOrder c ≠ .gt) :
    a.sortOrder c = .gt ↔ b.isNaN = true ∧
      ∃ x y, a = .number x ∧ c = .number y ∧ x.compare? y = some .gt := by
  constructor
  · intro hgt
    have hb : b.isNaN = true := by
      by_contra hplace
      rw [Bool.not_eq_true] at hplace
      exact sortOrder_trans hplace hab hbc hgt
    have hnumber : b.rank = 1 := by
      cases b <;> simp [isNaN] at hb
      rfl
    obtain ⟨hfirst, hsecond⟩ := rank_eq_of_sortOrder hab hbc hgt
    obtain ⟨x, rfl⟩ := exists_number_of_rank (hfirst.trans hnumber)
    obtain ⟨y, rfl⟩ := exists_number_of_rank (hsecond.symm.trans hnumber)
    refine ⟨hb, x, y, rfl, rfl, ?_⟩
    cases horder : x.compare? y with
    | none =>
      simp only [sortOrder, compare?, horder] at hgt
      exact absurd (compare_gt_iff_gt.1 hgt) (lt_irrefl 1)
    | some order =>
      simp only [sortOrder, compare?, horder] at hgt
      rw [hgt]
  · rintro ⟨-, x, y, rfl, rfl, horder⟩
    simp only [sortOrder, compare?, horder]

/-- A comparand with its text in small letters if case is ignored. -/
def folded (ignoreCase : Bool) : Comparand → Comparand
  | .string s => .string (if ignoreCase then Text.lower s else s)
  | comparand => comparand

/-- Folding the case makes no difference to what is no number. -/
theorem isNaN_folded (ignoreCase : Bool) (a : Comparand) : (a.folded ignoreCase).isNaN = a.isNaN := by
  cases a <;> rfl

end Comparand

namespace Value

/-- No value but a double can be without a place in the order. -/
theorem isNaN_comparand_iff (value : Value) :
    value.comparand.isNaN = true ↔ ∃ d : Double, value = .double d ∧ d.isNaN = true := by
  cases value <;> simp [comparand, Comparand.ofValue, Comparand.isNaN, Double.isNaN_ofInt]

/-- Every value ties with itself, and two values are in opposite orders from either side.  If a
first value is not behind a second and the second not behind a third, the first is not behind the
third, unless the second is a double which is no number and the others are numbers of which the
first is the larger. -/
theorem sortOrder_laws (a b c : Value) :
    a.comparand.sortOrder a.comparand = .eq ∧
      b.comparand.sortOrder a.comparand = (a.comparand.sortOrder b.comparand).swap ∧
      (a.comparand.sortOrder b.comparand ≠ .gt → b.comparand.sortOrder c.comparand ≠ .gt →
        (a.comparand.sortOrder c.comparand = .gt ↔
          (∃ d : Double, b = .double d ∧ d.isNaN = true) ∧
            ∃ x y, a.comparand = .number x ∧ c.comparand = .number y ∧
              x.compare? y = some .gt)) := by
  refine ⟨Comparand.sortOrder_self _, Comparand.sortOrder_swap _ _, fun hab hbc => ?_⟩
  rw [← isNaN_comparand_iff]
  exact Comparand.sortOrder_eq_gt_iff hab hbc

/-- The statement for an array between a text and a date. -/
theorem sortOrder_laws_array :
    let text : Value := .string "Zoe"
    let array : Value := .array [.int32 9, .double .nan]
    let date : Value := .dateTime (-5)
    text.comparand.sortOrder array.comparand ≠ .gt ∧
      array.comparand.sortOrder date.comparand ≠ .gt ∧
      text.comparand.sortOrder date.comparand ≠ .gt := by
  intro text array date
  have hfirst : text.comparand.sortOrder array.comparand ≠ .gt := by decide
  have hsecond : array.comparand.sortOrder date.comparand ≠ .gt := by decide
  refine ⟨hfirst, hsecond, fun hgt => ?_⟩
  obtain ⟨⟨d, hd, -⟩, -⟩ := ((sortOrder_laws text array date).2.2 hfirst hsecond).1 hgt
  exact absurd hd nofun

/-- Two is not behind what is no number, and this is not behind one, but two is behind one.  So a
sort can leave two ahead of one. -/
theorem sortOrder_not_transitive :
    let two : Value := .int32 2
    let nan : Value := .double .nan
    let one : Value := .int32 1
    let sized (value : Value) : Document := [("size", value)]
    two.comparand.sortOrder nan.comparand ≠ .gt ∧ nan.comparand.sortOrder one.comparand ≠ .gt ∧
      two.comparand.sortOrder one.comparand = .gt ∧
      sortDocuments false (sized (.int32 1)) [sized two, sized two, sized nan, sized one] =
        [sized two, sized two, sized nan, sized one] := by
  intro two nan one sized
  have htie : SortOrder.compare false (sized (.int32 1)) (sized two) (sized two) = .eq := by rfl
  have hfirst : SortOrder.compare false (sized (.int32 1)) (sized two) (sized nan) = .eq := by rfl
  have hsecond : SortOrder.compare false (sized (.int32 1)) (sized nan) (sized one) = .eq := by rfl
  refine ⟨by decide, by decide, by rfl, ?_⟩
  simp [sortDocuments, List.mergeSort, htie, hfirst, hsecond]

end Value

/-- Where case is ignored, texts are sorted as in small letters. -/
theorem SortOrder.compareValues_eq (ignoreCase : Bool) {a b : Comparand} (ha : a.isNaN = false)
    (hb : b.isNaN = false) :
    compareValues ignoreCase a b =
      Ord.compare (a.folded ignoreCase).place (b.folded ignoreCase).place := by
  have hfolded : compareValues ignoreCase a b =
      (a.folded ignoreCase).sortOrder (b.folded ignoreCase) := by
    cases a <;> cases b <;> cases ignoreCase <;> rfl
  rw [hfolded, Comparand.sortOrder_eq]
  · rw [Comparand.isNaN_folded, ha]
  · rw [Comparand.isNaN_folded, hb]

end VersionedStore
