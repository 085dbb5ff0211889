import VersionedStore.Number.Rounding
import Mathlib.Algebra.Group.Int.Defs
import Mathlib.Algebra.Group.Nat.Defs
import Mathlib.Data.Nat.Log
import Mathlib.Tactic.SplitIfs

/-!
# Integers as doubles

An integer is rounded by its magnitude alone, to a mantissa of fifty-three bits and an exponent.

* `Double.magnitude_ofMagnitude`, `Double.isNegative_ofMagnitude`: the parts of a word.
* `Double.ofInt_eq`: the double nearest to an integer has its sign, and a magnitude that depends on
  its magnitude only.
* `Double.roundHalfEven_error`, `Double.roundHalfEven_mono`: what rounding a quotient does.
* `Double.wholeMagnitude_eq`, `Double.le_wholeMantissa`, `Double.wholeMantissa_le`: the magnitude
  of an integer is its exponent and its mantissa.
-/

set_option autoImplicit false

namespace VersionedStore.Double

/-! ### Words of a sign and a magnitude -/

/-- A double made of a magnitude has that magnitude. -/
theorem magnitude_ofMagnitude (negative : Bool) {magnitude : ℕ}
    (h : magnitude ≤ infinityMagnitude) :
    (ofMagnitude negative magnitude).magnitude = magnitude := by
  have hsize : infinityMagnitude < signBit := by decide
  unfold ofMagnitude Double.magnitude
  cases negative with
  | false =>
    simp only [Bool.false_eq_true, if_false, UInt64.toNat_ofNat']
    unfold signBit at *
    omega
  | true =>
    simp only [if_true, UInt64.toNat_ofNat']
    unfold signBit at *
    omega

/-- A double made of a sign has that sign. -/
theorem isNegative_ofMagnitude (negative : Bool) {magnitude : ℕ}
    (h : magnitude ≤ infinityMagnitude) :
    (ofMagnitude negative magnitude).isNegative = negative := by
  have hsize : infinityMagnitude < signBit := by decide
  unfold ofMagnitude isNegative
  cases negative with
  | false =>
    simp only [Bool.false_eq_true, if_false, UInt64.toNat_ofNat', decide_eq_false_iff_not]
    unfold signBit at *
    omega
  | true =>
    simp only [if_true, UInt64.toNat_ofNat', decide_eq_true_eq]
    unfold signBit at *
    omega

/-- A magnitude up to that of the infinities stands for a number. -/
theorem isNaN_ofMagnitude (negative : Bool) {magnitude : ℕ} (h : magnitude ≤ infinityMagnitude) :
    (ofMagnitude negative magnitude).isNaN = false := by
  unfold isNaN
  rw [magnitude_ofMagnitude negative h]
  exact decide_eq_false (Nat.not_lt.2 h)

/-! ### The magnitude of a whole number -/

/-- The magnitude word of the double nearest to a whole number. -/
def wholeMagnitude (n : ℕ) : ℕ := (ofRatio false n 1).magnitude

/-- The magnitude word of zero is zero. -/
@[simp] theorem wholeMagnitude_zero : wholeMagnitude 0 = 0 := by decide

/-- A quotient is rounded to a magnitude, whatever its sign. -/
theorem exists_ofRatio (num den : ℕ) :
    ∃ magnitude ≤ infinityMagnitude, ∀ negative,
      ofRatio negative num den = ofMagnitude negative magnitude := by
  by_cases hzero : num = 0
  · exact ⟨0, Nat.zero_le _, fun negative => by rw [ofRatio, if_pos hzero]⟩
  · exact ⟨_, Nat.min_le_right _ _, fun negative => by rw [ofRatio, if_neg hzero]⟩

/-- The double nearest to a whole number has the magnitude word of that number. -/
theorem ofRatio_one (negative : Bool) (n : ℕ) :
    ofRatio negative n 1 = ofMagnitude negative (wholeMagnitude n) := by
  obtain ⟨magnitude, hmagnitude, heq⟩ := exists_ofRatio n 1
  unfold wholeMagnitude
  rw [heq, heq, magnitude_ofMagnitude false hmagnitude]

/-- No whole number has a magnitude beyond that of infinity. -/
theorem wholeMagnitude_le (n : ℕ) : wholeMagnitude n ≤ infinityMagnitude := by
  obtain ⟨magnitude, hmagnitude, heq⟩ := exists_ofRatio n 1
  unfold wholeMagnitude
  rw [heq, magnitude_ofMagnitude false hmagnitude]
  exact hmagnitude

/-- The double nearest to an integer has its sign, and the magnitude of its magnitude. -/
theorem ofInt_eq (i : ℤ) : ofInt i = ofMagnitude (decide (i < 0)) (wholeMagnitude i.natAbs) :=
  ofRatio_one _ _

/-- What an integer is rounded to is a number. -/
theorem isNaN_ofInt (i : ℤ) : (ofInt i).isNaN = false := by
  rw [ofInt_eq]
  exact isNaN_ofMagnitude _ (wholeMagnitude_le _)

/-- The place of the double nearest to an integer is its magnitude word with the sign of the
integer. -/
theorem orderKey_ofInt (i : ℤ) :
    (ofInt i).orderKey =
      if i < 0 then -(wholeMagnitude i.natAbs : ℤ) else wholeMagnitude i.natAbs := by
  have hle := wholeMagnitude_le i.natAbs
  rw [ofInt_eq, orderKey, isNegative_ofMagnitude _ hle, magnitude_ofMagnitude _ hle]
  simp only [decide_eq_true_eq]

/-! ### Rounding a quotient -/

/-- A whole number is not rounded. -/
theorem roundHalfEven_one (n : ℕ) : roundHalfEven n 1 = n := by
  unfold roundHalfEven
  simp [Nat.mod_one]

/-- A quotient is rounded to its whole part at least. -/
theorem le_roundHalfEven (num den : ℕ) : num / den ≤ roundHalfEven num den := by
  unfold roundHalfEven
  dsimp only
  split_ifs <;> omega

section
variable {num num' den : ℕ}

/-- A quotient is rounded to one above its whole part at most. -/
theorem roundHalfEven_le (num den : ℕ) : roundHalfEven num den ≤ num / den + 1 := by
  unfold roundHalfEven
  dsimp only
  split_ifs <;> omega

/-- A rounded quotient is no more than one half away. -/
theorem roundHalfEven_error (hden : 0 < den) :
    2 * num ≤ 2 * (roundHalfEven num den * den) + den ∧
      2 * (roundHalfEven num den * den) ≤ 2 * num + den := by
  have hsplit : num / den * den + num % den = num := Nat.div_add_mod' num den
  have hrest := Nat.mod_lt num hden
  have hnext : (num / den + 1) * den = num / den * den + den := Nat.succ_mul _ _
  unfold roundHalfEven
  dsimp only
  split_ifs <;> omega

/-- Rounding keeps the order of quotients with one denominator. -/
theorem roundHalfEven_mono (h : num ≤ num') :
    roundHalfEven num den ≤ roundHalfEven num' den := by
  rcases Nat.lt_or_eq_of_le (Nat.div_le_div_right (c := den) h) with hlt | hsame
  · calc roundHalfEven num den ≤ num / den + 1 := roundHalfEven_le num den
      _ ≤ num' / den := hlt
      _ ≤ roundHalfEven num' den := le_roundHalfEven num' den
  · have hsplit := Nat.div_add_mod' num den
    have hsplit' := Nat.div_add_mod' num' den
    rw [← hsame] at hsplit'
    unfold roundHalfEven
    dsimp only
    rw [← hsame]
    split_ifs <;> omega

/-- A quotient that is whole is left as it is. -/
theorem roundHalfEven_mul_eq_iff (hden : 0 < den) :
    roundHalfEven num den * den = num ↔ den ∣ num := by
  constructor
  · intro h
    exact ⟨_, by rw [Nat.mul_comm, h]⟩
  · intro h
    have hrest := Nat.mod_eq_zero_of_dvd h
    unfold roundHalfEven
    dsimp only
    rw [hrest, if_pos (by omega)]
    exact Nat.div_mul_cancel h

end

/-! ### Mantissa and exponent -/

/-- The binary exponent of a whole number is its logarithm. -/
theorem binaryExponent_one {n : ℕ} (hn : n ≠ 0) : binaryExponent n 1 = n.log2 := by
  have hone : Nat.log2 1 = 0 := by decide
  unfold binaryExponent
  simp [hone, Nat.log2_self_le hn]

/-- The mantissa of the double nearest to a whole number, before a carry. -/
def wholeMantissa (n : ℕ) : ℕ :=
  if 52 ≤ n.log2 then roundHalfEven n (2 ^ (n.log2 - 52)) else n * 2 ^ (52 - n.log2)

/-- The magnitude word of a whole number is its exponent and its mantissa, up to infinity. -/
theorem wholeMagnitude_eq {n : ℕ} (hn : n ≠ 0) :
    wholeMagnitude n = min ((n.log2 + 1022) * leadingBit + wholeMantissa n) infinityMagnitude := by
  have hscale : max (-1074) ((n.log2 : ℤ) - 52) = (n.log2 : ℤ) - 52 := by omega
  have hfield : ((n.log2 : ℤ) - 52 + 1074).toNat = n.log2 + 1022 := by omega
  have hup : ((n.log2 : ℤ) - 52).toNat = n.log2 - 52 := by omega
  have hdown : (-((n.log2 : ℤ) - 52)).toNat = 52 - n.log2 := by omega
  have hmantissa : (if 0 ≤ (n.log2 : ℤ) - 52 then
        roundHalfEven n (1 * Nat.pow 2 ((n.log2 : ℤ) - 52).toNat)
      else roundHalfEven (n * Nat.pow 2 (-((n.log2 : ℤ) - 52)).toNat) 1) = wholeMantissa n := by
    rw [hup, hdown, roundHalfEven_one, Nat.one_mul]
    unfold wholeMantissa
    by_cases h : 52 ≤ n.log2
    · rw [if_pos h, if_pos (by omega)]
      rfl
    · rw [if_neg h, if_neg (by omega)]
      rfl
  unfold wholeMagnitude
  rw [ofRatio, if_neg hn]
  dsimp only
  rw [binaryExponent_one hn, hscale, hfield, hmantissa]
  exact magnitude_ofMagnitude false (Nat.min_le_right _ _)

/-- The mantissa of a whole number has its leading bit. -/
theorem le_wholeMantissa {n : ℕ} (hn : n ≠ 0) : leadingBit ≤ wholeMantissa n := by
  have hlow : 2 ^ n.log2 ≤ n := Nat.log2_self_le hn
  have hbit : leadingBit = 2 ^ 52 := by decide
  unfold wholeMantissa
  split
  · rename_i hlog
    refine le_trans ?_ (le_roundHalfEven _ _)
    rw [Nat.le_div_iff_mul_le (Nat.two_pow_pos _), hbit, ← Nat.pow_add]
    rwa [Nat.add_sub_cancel' hlog]
  · rename_i hlog
    calc leadingBit = 2 ^ n.log2 * 2 ^ (52 - n.log2) := by
          rw [hbit, ← Nat.pow_add]
          congr 1
          omega
      _ ≤ n * 2 ^ (52 - n.log2) := Nat.mul_le_mul_right _ hlow

/-- A mantissa may be rounded up to the next power of two, and not further. -/
theorem wholeMantissa_le (n : ℕ) : wholeMantissa n ≤ 2 * leadingBit := by
  have hbits : 2 * leadingBit = 2 ^ 53 := by decide
  rw [hbits]
  unfold wholeMantissa
  split
  · rename_i hlog
    have hquotient : n / 2 ^ (n.log2 - 52) < 2 ^ 53 := by
      rw [Nat.div_lt_iff_lt_mul (Nat.two_pow_pos _), ← Nat.pow_add]
      have hlt : n < 2 ^ (n.log2 + 1) := Nat.lt_log2_self
      rwa [show 53 + (n.log2 - 52) = n.log2 + 1 by omega]
    exact (roundHalfEven_le _ _).trans hquotient
  · rename_i hlog
    calc n * 2 ^ (52 - n.log2) ≤ 2 ^ (n.log2 + 1) * 2 ^ (52 - n.log2) :=
          Nat.mul_le_mul_right _ (Nat.le_of_lt Nat.lt_log2_self)
      _ = 2 ^ 53 := by
          rw [← Nat.pow_add]
          congr 1
          omega

/-- Whole numbers of sixty-four bits are far from the infinities. -/
theorem wholeMagnitude_eq_packed {n : ℕ} (hn : n ≠ 0) (hlt : n < 2 ^ 64) :
    wholeMagnitude n = (n.log2 + 1022) * leadingBit + wholeMantissa n := by
  have hlog := (Nat.log2_lt hn).2 hlt
  have hmantissa := wholeMantissa_le n
  rw [wholeMagnitude_eq hn]
  unfold infinityMagnitude leadingBit at *
  omega

end VersionedStore.Double
