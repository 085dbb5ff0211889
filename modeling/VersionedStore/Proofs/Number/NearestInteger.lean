import VersionedStore.Proofs.Number.Rounding

/-!
# The integers that doubles stand for

Beyond `2 ^ 53` doubles hold multiples of a power of two only, and an integer becomes the nearest of
them.  Doubles of two integers compare as the integers that they stand for.

* `Double.nearestInt`: the integer that the double nearest to an integer stands for.
* `Double.ratio_ofInt`, `Double.nearestInt_error`: it is what the double stands for, and no more than
  half a step away.
* `Double.compare_orderKey_ofInt`: doubles of integers compare as what they stand for.
* `Double.nearestInt_mono`, `Double.lt_nearestInt_iff`, `Double.nearestInt_lt_iff`: the order is
  never turned round, and it is kept where one of the integers is small.
* `Double.toInt64_eq_of_orderKey`: a double that stands where a small positive integer stands has it
  as its whole part.
-/

set_option autoImplicit false

namespace VersionedStore.Double

/-! ### The whole number that a magnitude stands for -/

/-- The distance between the whole numbers around a whole number that doubles hold. -/
def wholeStep (n : ℕ) : ℕ := 2 ^ (n.log2 - 52)

/-- The whole number that the double nearest to a whole number stands for. -/
def nearestWhole (n : ℕ) : ℕ := roundHalfEven n (wholeStep n) * wholeStep n

/-- Zero is held exactly. -/
@[simp] theorem nearestWhole_zero : nearestWhole 0 = 0 := by decide

/-- Whole numbers that doubles hold have some distance. -/
theorem wholeStep_pos (n : ℕ) : 0 < wholeStep n := Nat.two_pow_pos _

/-- The whole number that a double holds is off by half a step at most. -/
theorem nearestWhole_error (n : ℕ) :
    2 * n ≤ 2 * nearestWhole n + wholeStep n ∧ 2 * nearestWhole n ≤ 2 * n + wholeStep n :=
  roundHalfEven_error (wholeStep_pos n)

/-- A whole number is held exactly if it is a multiple of the step around it. -/
theorem nearestWhole_eq_self_iff {n : ℕ} : nearestWhole n = n ↔ wholeStep n ∣ n :=
  roundHalfEven_mul_eq_iff (wholeStep_pos n)

section
variable {n m : ℕ}

/-- A mantissa with its exponent stands for the whole number. -/
theorem nearestWhole_mul (n : ℕ) : nearestWhole n * leadingBit = wholeMantissa n * 2 ^ n.log2 := by
  have hbit : leadingBit = 2 ^ 52 := by decide
  unfold nearestWhole wholeStep wholeMantissa
  rw [hbit]
  split
  · rename_i hlog
    rw [Nat.mul_assoc, ← Nat.pow_add, Nat.sub_add_cancel hlog]
  · rename_i hlog
    have hstep : n.log2 - 52 = 0 := by omega
    rw [hstep, Nat.pow_zero, roundHalfEven_one, Nat.mul_one, Nat.mul_assoc, ← Nat.pow_add]
    congr 2
    omega

/-- Rounding does not fall below the power of two below a whole number. -/
theorem le_nearestWhole (hn : n ≠ 0) : 2 ^ n.log2 ≤ nearestWhole n := by
  have hmul := nearestWhole_mul n
  have hmantissa := Nat.mul_le_mul_right (2 ^ n.log2) (le_wholeMantissa hn)
  rw [← hmul, Nat.mul_comm] at hmantissa
  exact Nat.le_of_mul_le_mul_right hmantissa (by decide)

/-- Rounding does not rise above the power of two above a whole number. -/
theorem nearestWhole_le (n : ℕ) : nearestWhole n ≤ 2 ^ (n.log2 + 1) := by
  have hmul := nearestWhole_mul n
  have hmantissa := Nat.mul_le_mul_right (2 ^ n.log2) (wholeMantissa_le n)
  rw [← hmul, Nat.mul_right_comm, ← Nat.pow_succ'] at hmantissa
  exact Nat.le_of_mul_le_mul_right hmantissa (by decide)

/-- Rounding keeps the order of whole numbers, though some become equal. -/
theorem nearestWhole_mono (h : n ≤ m) : nearestWhole n ≤ nearestWhole m := by
  by_cases hn : n = 0
  · simp [hn]
  have hm : m ≠ 0 := by omega
  have hlogs : n.log2 ≤ m.log2 := (Nat.le_log2 hm).2 ((Nat.log2_self_le hn).trans h)
  rcases Nat.lt_or_eq_of_le hlogs with hlt | hsame
  · -- A power of two, which is not rounded, stands between the two.
    calc nearestWhole n ≤ 2 ^ (n.log2 + 1) := nearestWhole_le n
      _ ≤ 2 ^ m.log2 := Nat.pow_le_pow_right (by decide) hlt
      _ ≤ nearestWhole m := le_nearestWhole hm
  · have hstep : wholeStep n = wholeStep m := by
      unfold wholeStep
      rw [hsame]
    unfold nearestWhole
    rw [hstep]
    exact Nat.mul_le_mul_right _ (roundHalfEven_mono h)

/-- A whole number below `2 ^ 53` has at most 53 binary digits. -/
theorem log2_le_of_lt (hn : n ≠ 0) (hlt : n < 2 ^ 53) : n.log2 ≤ 52 := by
  have hlog := (Nat.log2_lt hn).2 hlt
  omega

/-- Up to `2 ^ 53` whole numbers are left as they are. -/
theorem nearestWhole_of_le (h : n ≤ 2 ^ 53) : nearestWhole n = n := by
  rw [nearestWhole_eq_self_iff]
  rcases Nat.lt_or_eq_of_le h with hlt | rfl
  · by_cases hn : n = 0
    · simp [hn]
    · have hlog := log2_le_of_lt hn hlt
      unfold wholeStep
      rw [Nat.sub_eq_zero_of_le hlog]
      exact Nat.one_dvd n
  · decide

/-! ### Comparing magnitudes -/

/-- An exponent with a mantissa that fills its bits, or has been rounded up to the next power of two,
is ordered as what it stands for. -/
theorem packed_lt_iff {e f a b : ℕ} (ha : leadingBit ≤ a) (ha' : a ≤ 2 * leadingBit)
    (hb : leadingBit ≤ b) (hb' : b ≤ 2 * leadingBit) :
    (e + 1022) * leadingBit + a < (f + 1022) * leadingBit + b ↔ a * 2 ^ e < b * 2 ^ f := by
  rcases Nat.lt_trichotomy e f with hlt | rfl | hlt
  · -- A larger exponent outweighs every mantissa.  The two sides meet only where it is larger by one,
    -- the smaller has been rounded up to the next power of two and the larger is that power.
    obtain ⟨d, rfl⟩ := Nat.exists_eq_add_of_lt hlt
    have hvalue : b * 2 ^ (e + d + 1) = b * 2 ^ d * 2 * 2 ^ e := by
      rw [Nat.pow_succ, Nat.pow_add]
      ac_rfl
    rw [hvalue, Nat.mul_lt_mul_right (Nat.two_pow_pos e)]
    cases d with
    | zero =>
      rw [Nat.pow_zero, Nat.mul_one]
      unfold leadingBit at *
      omega
    | succ d =>
      have hpow := Nat.mul_le_mul_left b (Nat.one_le_two_pow (n := d))
      rw [Nat.pow_succ, ← Nat.mul_assoc]
      unfold leadingBit at *
      omega
  · rw [Nat.mul_lt_mul_right (Nat.two_pow_pos e)]
    omega
  · obtain ⟨d, rfl⟩ := Nat.exists_eq_add_of_lt hlt
    have hvalue : a * 2 ^ (f + d + 1) = a * 2 ^ d * 2 * 2 ^ f := by
      rw [Nat.pow_succ, Nat.pow_add]
      ac_rfl
    have hpow := Nat.mul_le_mul_left a (Nat.one_le_two_pow (n := d))
    rw [hvalue, Nat.mul_lt_mul_right (Nat.two_pow_pos f)]
    unfold leadingBit at *
    omega

/-- Magnitudes are ordered as the whole numbers that they stand for. -/
theorem wholeMagnitude_lt_iff (hn : n < 2 ^ 64) (hm : m < 2 ^ 64) :
    wholeMagnitude n < wholeMagnitude m ↔ nearestWhole n < nearestWhole m := by
  have hbit : 0 < leadingBit := by decide
  by_cases hmZero : m = 0
  · simp [hmZero]
  have hmBit := le_wholeMantissa hmZero
  by_cases hnZero : n = 0
  · have hpositive := le_nearestWhole hmZero
    have hpower := Nat.two_pow_pos m.log2
    rw [hnZero, wholeMagnitude_zero, nearestWhole_zero, wholeMagnitude_eq_packed hmZero hm]
    omega
  rw [wholeMagnitude_eq_packed hnZero hn, wholeMagnitude_eq_packed hmZero hm,
    packed_lt_iff (le_wholeMantissa hnZero) (wholeMantissa_le n) hmBit
      (wholeMantissa_le m),
    ← nearestWhole_mul, ← nearestWhole_mul, Nat.mul_lt_mul_right hbit]

end

/-! ### Integers -/

/-- The magnitude of a 64-bit integer is below `2 ^ 64`. -/
theorem natAbs_toInt_lt (i : Int64) : i.toInt.natAbs < 2 ^ 64 := by
  have hlow := Int64.le_toInt i
  have hhigh := Int64.toInt_lt i
  omega

/-- The integer that the double nearest to an integer stands for. -/
def nearestInt (i : ℤ) : ℤ := if i < 0 then -(nearestWhole i.natAbs : ℤ) else nearestWhole i.natAbs

section
variable {i j : ℤ}

/-- Doubles of integers are ordered as the integers that they stand for. -/
theorem orderKey_ofInt_lt_iff (hi : i.natAbs < 2 ^ 64) (hj : j.natAbs < 2 ^ 64) :
    (ofInt i).orderKey < (ofInt j).orderKey ↔ nearestInt i < nearestInt j := by
  have hlt := wholeMagnitude_lt_iff hi hj
  have hgt := wholeMagnitude_lt_iff hj hi
  have hiZero := wholeMagnitude_lt_iff (n := 0) (by decide) hi
  have hjZero := wholeMagnitude_lt_iff (n := 0) (by decide) hj
  rw [wholeMagnitude_zero, nearestWhole_zero] at hiZero hjZero
  rw [orderKey_ofInt, orderKey_ofInt]
  unfold nearestInt
  split_ifs <;> omega

/-- Integers have doubles in one place if they are rounded to the same integer. -/
theorem orderKey_ofInt_eq_iff (hi : i.natAbs < 2 ^ 64) (hj : j.natAbs < 2 ^ 64) :
    (ofInt i).orderKey = (ofInt j).orderKey ↔ nearestInt i = nearestInt j := by
  have hlt := orderKey_ofInt_lt_iff hi hj
  have hgt := orderKey_ofInt_lt_iff hj hi
  omega

/-- The doubles of integers are in the order of the integers that they stand for. -/
theorem compare_orderKey_ofInt (hi : i.natAbs < 2 ^ 64) (hj : j.natAbs < 2 ^ 64) :
    compare (ofInt i).orderKey (ofInt j).orderKey = compare (nearestInt i) (nearestInt j) := by
  rcases lt_trichotomy (nearestInt i) (nearestInt j) with h | h | h
  · rw [compare_lt_iff_lt.2 h, compare_lt_iff_lt.2 ((orderKey_ofInt_lt_iff hi hj).2 h)]
  · rw [compare_eq_iff_eq.2 h, compare_eq_iff_eq.2 ((orderKey_ofInt_eq_iff hi hj).2 h)]
  · rw [compare_gt_iff_gt.2 h, compare_gt_iff_gt.2 ((orderKey_ofInt_lt_iff hj hi).2 h)]

/-- Rounding never turns the order of two integers round. -/
theorem nearestInt_mono (h : i ≤ j) : nearestInt i ≤ nearestInt j := by
  unfold nearestInt
  split_ifs with hi hj
  · have hmono := nearestWhole_mono (n := j.natAbs) (m := i.natAbs) (by omega)
    omega
  · omega
  · omega
  · have hmono := nearestWhole_mono (n := i.natAbs) (m := j.natAbs) (by omega)
    omega

/-- An integer is left as it is exactly if it is a whole number of steps. -/
theorem nearestInt_eq_self_iff : nearestInt i = i ↔ wholeStep i.natAbs ∣ i.natAbs := by
  rw [← nearestWhole_eq_self_iff]
  unfold nearestInt
  split_ifs <;> omega

/-- The integer that a double stands for is off by half a step at most. -/
theorem nearestInt_error (i : ℤ) : 2 * (nearestInt i - i).natAbs ≤ wholeStep i.natAbs := by
  have herror := nearestWhole_error i.natAbs
  unfold nearestInt
  split_ifs <;> omega

/-- Integers up to `2 ^ 53` are held exactly. -/
theorem nearestInt_of_le (h : i.natAbs ≤ 2 ^ 53) : nearestInt i = i := by
  rw [nearestInt_eq_self_iff, ← nearestWhole_eq_self_iff]
  exact nearestWhole_of_le h

/-- Nothing is rounded to an integer of magnitude below `2 ^ 53`, or past it. -/
theorem lt_nearestInt_iff (h : i.natAbs < 2 ^ 53) : nearestInt i < nearestInt j ↔ i < j := by
  have hself : nearestInt i = i := nearestInt_of_le h.le
  have hnext : nearestInt (i + 1) = i + 1 := nearestInt_of_le (by omega)
  constructor
  · intro hlt
    by_contra hle
    have hmono := nearestInt_mono (not_lt.1 hle)
    omega
  · intro hlt
    have hmono := nearestInt_mono (i := i + 1) (j := j) (by omega)
    omega

/-- Rounding keeps the order between an integer below `2 ^ 53` and any other. -/
theorem nearestInt_lt_iff (h : i.natAbs < 2 ^ 53) : nearestInt j < nearestInt i ↔ j < i := by
  have hself : nearestInt i = i := nearestInt_of_le h.le
  have hbefore : nearestInt (i - 1) = i - 1 := nearestInt_of_le (by omega)
  constructor
  · intro hlt
    by_contra hle
    have hmono := nearestInt_mono (not_lt.1 hle)
    omega
  · intro hlt
    have hmono := nearestInt_mono (i := j) (j := i - 1) (by omega)
    omega

/-- No other integer is rounded to one of magnitude below `2 ^ 53`. -/
theorem nearestInt_inj (h : i.natAbs < 2 ^ 53) : nearestInt j = nearestInt i ↔ j = i := by
  have hlt := lt_nearestInt_iff (j := j) h
  have hgt := nearestInt_lt_iff (j := j) h
  omega

/-- No other integer has a double in the place of an integer below `2 ^ 53`. -/
theorem orderKey_ofInt_inj (hi : i.natAbs < 2 ^ 64) (hj : j.natAbs < 2 ^ 53) :
    (ofInt i).orderKey = (ofInt j).orderKey ↔ i = j := by
  rw [orderKey_ofInt_eq_iff hi (hj.trans (by decide)), nearestInt_inj hj]

end

/-! ### What doubles stand for -/

/-- The exponent and the mantissa of a double with the magnitude of a whole number.  A mantissa that
has been rounded up to the next power of two is read with the next exponent. -/
theorem exists_exponent {d : Double} {n : ℕ} (hn : n ≠ 0) (hlt : n < 2 ^ 64)
    (hd : d.magnitude = wholeMagnitude n) : ∃ exponent, d.exponentField = exponent + 1023 ∧
      d.mantissa * 2 ^ exponent = nearestWhole n * leadingBit := by
  have hlow := le_wholeMantissa hn
  have hhigh := wholeMantissa_le n
  rw [wholeMagnitude_eq_packed hn hlt] at hd
  rw [nearestWhole_mul]
  unfold mantissa exponentField
  rw [hd]
  rcases Nat.lt_or_eq_of_le hhigh with hfits | hcarried
  · have hfield : ((n.log2 + 1022) * leadingBit + wholeMantissa n) / leadingBit =
        n.log2 + 1023 := by
      unfold leadingBit at *
      omega
    have hmantissa : ((n.log2 + 1022) * leadingBit + wholeMantissa n) % leadingBit + leadingBit =
        wholeMantissa n := by
      unfold leadingBit at *
      omega
    refine ⟨n.log2, hfield, ?_⟩
    rw [hfield, if_neg (by omega), hmantissa]
  · have hfield : ((n.log2 + 1022) * leadingBit + wholeMantissa n) / leadingBit =
        n.log2 + 1 + 1023 := by
      unfold leadingBit at *
      omega
    have hmantissa : ((n.log2 + 1022) * leadingBit + wholeMantissa n) % leadingBit = 0 := by
      unfold leadingBit at *
      omega
    refine ⟨n.log2 + 1, hfield, ?_⟩
    rw [hfield, if_neg (by omega), hmantissa, hcarried, Nat.zero_add, Nat.pow_succ']
    ac_rfl

/-- A double with the magnitude of a whole number stands for what it is rounded to. -/
theorem ratio_of_magnitude {d : Double} {n : ℕ} (hlt : n < 2 ^ 64)
    (hd : d.magnitude = wholeMagnitude n) : d.ratio.1 = nearestWhole n * d.ratio.2 := by
  by_cases hn : n = 0
  · rw [hn, wholeMagnitude_zero] at hd
    have hmantissa : d.mantissa = 0 := by
      unfold mantissa exponentField
      simp [hd]
    unfold ratio
    rw [hmantissa, hn, nearestWhole_zero, Nat.zero_mul, Nat.zero_mul]
    split <;> rfl
  obtain ⟨exponent, hfield, hvalue⟩ := exists_exponent hn hlt hd
  have hbit : leadingBit = 2 ^ 52 := by decide
  have hscale : d.scale = (exponent : ℤ) - 52 := by
    unfold scale
    rw [if_neg (by omega), hfield]
    omega
  have hup : ((exponent : ℤ) - 52).toNat = exponent - 52 := by omega
  have hdown : (-((exponent : ℤ) - 52)).toNat = 52 - exponent := by omega
  unfold ratio
  rw [hscale, hup, hdown]
  rw [hbit] at hvalue
  split
  · have hpow : 2 ^ exponent = 2 ^ (exponent - 52) * 2 ^ 52 := by
      rw [← Nat.pow_add, Nat.sub_add_cancel (by omega)]
    rw [hpow, ← Nat.mul_assoc] at hvalue
    rw [Nat.mul_one]
    exact Nat.mul_right_cancel (Nat.two_pow_pos 52) hvalue
  · have hpow : 2 ^ 52 = 2 ^ (52 - exponent) * 2 ^ exponent := by
      rw [← Nat.pow_add, Nat.sub_add_cancel (by omega)]
    rw [hpow, ← Nat.mul_assoc] at hvalue
    exact Nat.mul_right_cancel (Nat.two_pow_pos exponent) hvalue

/-- The magnitude of a finite double is a quotient with a positive denominator. -/
theorem ratio_snd_pos (d : Double) : 0 < d.ratio.2 := by
  unfold ratio
  split
  · exact Nat.one_pos
  · exact Nat.two_pow_pos _

/-- The double nearest to an integer stands for the integer that it is rounded to. -/
theorem ratio_ofInt {i : ℤ} (h : i.natAbs < 2 ^ 64) :
    (ofInt i).ratio.1 = (nearestInt i).natAbs * (ofInt i).ratio.2 := by
  have hmagnitude : (ofInt i).magnitude = wholeMagnitude i.natAbs := by
    rw [ofInt_eq, magnitude_ofMagnitude _ (wholeMagnitude_le _)]
  have hnearest : (nearestInt i).natAbs = nearestWhole i.natAbs := by
    unfold nearestInt
    split_ifs <;> omega
  rw [hnearest, ratio_of_magnitude h hmagnitude]

/-- A double that stands where a positive integer below `2 ^ 53` stands has it as its whole part. -/
theorem toInt64_eq_of_orderKey {d : Double} {i : Int64} (hpos : 1 ≤ i) (hlt : i.toInt < 2 ^ 53)
    (hnumber : d.isNaN = false) (hd : d.orderKey = (ofInt i.toInt).orderKey) : d.toInt64 = i := by
  have hposInt : 1 ≤ i.toInt := Int64.le_iff_toInt_le.1 hpos
  have hn : i.toInt.natAbs ≠ 0 := by omega
  have hsmall : i.toInt.natAbs < 2 ^ 53 := by omega
  have hwide : i.toInt.natAbs < 2 ^ 64 := hsmall.trans (by decide)
  have hmantissa := le_wholeMantissa hn
  have hmantissa' := wholeMantissa_le i.toInt.natAbs
  have hpacked := wholeMagnitude_eq_packed hn hwide
  rw [orderKey_ofInt, if_neg (by omega), orderKey] at hd
  have hnegative : d.isNegative = false := by
    rw [Bool.eq_false_iff]
    intro h
    rw [if_pos h] at hd
    unfold leadingBit at *
    omega
  rw [hnegative, if_neg Bool.false_ne_true] at hd
  have hmagnitude : d.magnitude = wholeMagnitude i.toInt.natAbs := by omega
  have hinfinite : d.isInfinite = false := by
    have hlog := (Nat.log2_lt hn).2 hsmall
    refine decide_eq_false ?_
    rw [hmagnitude, hpacked]
    unfold infinityMagnitude leadingBit at *
    omega
  have hwhole : d.ratio.1 / d.ratio.2 = i.toInt.natAbs := by
    rw [ratio_of_magnitude hwide hmagnitude, nearestWhole_of_le hsmall.le]
    exact Nat.mul_div_cancel _ d.ratio_snd_pos
  have hrange := Int64.toInt_lt i
  unfold toInt64
  rw [hnumber, hinfinite, hnegative, hwhole]
  simp only [Bool.false_eq_true, if_false]
  have hclamped : max int64Range.1 (min int64Range.2 (i.toInt.natAbs : ℤ)) = i.toInt := by
    unfold int64Range
    omega
  rw [hclamped, Int64.ofInt_toInt]

end VersionedStore.Double
