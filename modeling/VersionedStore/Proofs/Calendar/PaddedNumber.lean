import VersionedStore.Calendar.Layout
import VersionedStore.Value.Display
import Mathlib.Data.Nat.Init
import Mathlib.Data.String.Basic
import Mathlib.Tactic.IntervalCases

/-!
# Numbers with zeros in front

A number that is written in a fixed width has one digit in each place.  So a reader that knows the
width reads it back, and numbers of one width are ordered as their digits are.

* `fixedDigits`: the digits of a number in a width.
* `toList_padded`: filling up with zeros gives them.
* `spelled_fixedDigits`: they spell the number.
* `fixedDigits_append_lt_iff`: texts that begin with such numbers are compared by them first.
-/

set_option autoImplicit false

namespace VersionedStore.Calendar

/-- The digits of a number in a width. -/
def fixedDigits : ℕ → ℕ → List Char
  | 0, _ => []
  | width + 1, n => fixedDigits width (n / 10) ++ [(n % 10).digitChar]

/-- A number is written in as many digits as its width. -/
@[simp] theorem length_fixedDigits (width n : ℕ) : (fixedDigits width n).length = width := by
  induction width generalizing n with
  | zero => rfl
  | succ width ih => rw [fixedDigits, List.length_append, ih, List.length_singleton]

/-- Zero is written in zeros only. -/
theorem fixedDigits_zero (width : ℕ) : fixedDigits width 0 = List.replicate width '0' := by
  induction width with
  | zero => rfl
  | succ width ih =>
    rw [fixedDigits, Nat.zero_div, ih, List.replicate_succ']
    rfl

/-- Without its last digit, a number fits a width that is smaller by one. -/
theorem div_ten_lt {width n : ℕ} (h : n < 10 ^ (width + 1)) : n / 10 < 10 ^ width :=
  Nat.div_lt_of_lt_mul (by rwa [← Nat.pow_succ'])

/-- Filling up the digits of a number with zeros gives its digits in a width. -/
theorem replicate_append_toDigits {width n : ℕ} (hwidth : 0 < width) (hn : n < 10 ^ width) :
    List.replicate (width - (Nat.toDigits 10 n).length) '0' ++ Nat.toDigits 10 n =
      fixedDigits width n := by
  induction width generalizing n with
  | zero => omega
  | succ width ih =>
    rw [fixedDigits]
    rcases Nat.lt_or_ge n 10 with hten | hten
    · rw [Nat.toDigits_of_lt_base hten, Nat.div_eq_of_lt hten, Nat.mod_eq_of_lt hten,
        fixedDigits_zero]
      rfl
    · -- There is a digit before the last one, so that the width is not used up.
      have hwidth' : 0 < width := by
        rcases Nat.eq_zero_or_pos width with rfl | hpos
        · omega
        · exact hpos
      rw [Nat.toDigits_of_base_le (by decide) hten, List.length_append, List.length_singleton,
        Nat.add_sub_add_right, ← List.append_assoc, ih hwidth' (div_ten_lt hn)]

/-- A number that fits its width is shown in the digits of that width. -/
theorem toList_padded {width n : ℕ} (hwidth : 0 < width) (hn : n < 10 ^ width) :
    (padded width n).toList = fixedDigits width n := by
  rw [← replicate_append_toDigits hwidth hn]
  simp [padded, padded.zeros, Integer.digits]

/-! ### Reading the digits -/

/-- The character of a digit is read as that digit. -/
theorem digit?_digitChar {d : ℕ} (h : d < 10) : Integer.digit? d.digitChar = some d := by
  interval_cases d <;> rfl

/-- A written number consists of digits. -/
theorem isSome_digit?_of_mem {width n : ℕ} {c : Char} (h : c ∈ fixedDigits width n) :
    (Integer.digit? c).isSome = true := by
  induction width generalizing n with
  | zero => simp [fixedDigits] at h
  | succ width ih =>
    rw [fixedDigits, List.mem_append, List.mem_singleton] at h
    rcases h with hfront | rfl
    · exact ih hfront
    · rw [digit?_digitChar (Nat.mod_lt n (by decide))]
      rfl

/-- The digits of a number spell it. -/
theorem spelled_fixedDigits {width n : ℕ} (h : n < 10 ^ width) :
    spelled (fixedDigits width n) = n := by
  induction width generalizing n with
  | zero =>
    rw [Nat.pow_zero] at h
    show 0 = n
    omega
  | succ width ih =>
    have hfront : spelled (fixedDigits width (n / 10)) = n / 10 := ih (div_ten_lt h)
    unfold spelled at hfront ⊢
    rw [fixedDigits, List.foldl_append, hfront, List.foldl_cons, List.foldl_nil,
      digit?_digitChar (Nat.mod_lt n (by decide)), Option.getD_some]
    omega

/-! ### Comparing the digits -/

/-- The characters of digits are in the order of the digits. -/
theorem digitChar_lt_iff {a b : ℕ} (ha : a < 10) (hb : b < 10) :
    a.digitChar < b.digitChar ↔ a < b := by
  show a.digitChar.toNat < b.digitChar.toNat ↔ a < b
  rw [Nat.toNat_digitChar_of_lt_ten ha, Nat.toNat_digitChar_of_lt_ten hb]
  omega

/-- Different digits have different characters. -/
theorem digitChar_inj {a b : ℕ} (ha : a < 10) (hb : b < 10) :
    a.digitChar = b.digitChar ↔ a = b := by
  rw [← Char.toNat_inj, Nat.toNat_digitChar_of_lt_ten ha, Nat.toNat_digitChar_of_lt_ten hb]
  omega

/-- Texts that begin with numbers of one width are compared by the numbers, and by what follows if
these are the same. -/
theorem fixedDigits_append_lt_iff {width n m : ℕ} (hn : n < 10 ^ width) (hm : m < 10 ^ width)
    (rest rest' : List Char) :
    fixedDigits width n ++ rest < fixedDigits width m ++ rest' ↔
      n < m ∨ n = m ∧ rest < rest' := by
  induction width generalizing n m rest rest' with
  | zero =>
    rw [Nat.pow_zero] at hn hm
    obtain rfl : n = 0 := by omega
    obtain rfl : m = 0 := by omega
    simp [fixedDigits]
  | succ width ih =>
    have hten : n % 10 < 10 := Nat.mod_lt n (by decide)
    have hten' : m % 10 < 10 := Nat.mod_lt m (by decide)
    rw [fixedDigits, fixedDigits, List.append_assoc, List.append_assoc,
      ih (div_ten_lt hn) (div_ten_lt hm), List.singleton_append, List.singleton_append,
      List.cons_lt_cons_iff, digitChar_lt_iff hten hten', digitChar_inj hten hten']
    by_cases hrest : rest < rest'
    · simp only [hrest, and_true]
      omega
    · simp only [hrest, and_false, or_false]
      omega

end VersionedStore.Calendar
