import VersionedStore.Number.Integer
import Mathlib.Algebra.Order.Group.Nat
import Mathlib.Data.Nat.Init
import Mathlib.Data.String.Basic

/-!
# Integers that are written and read

* `Integer.magnitude_eq_ofDigitChars`, `Integer.read_of_isDigit`: digits are read as what they
  stand for.
* `Integer.readInt64_write`: a positive integer that was written is read as itself.
* `Integer.le_write_of_readInt64`: of all texts that are read as it, that one comes last.
-/

set_option autoImplicit false

namespace VersionedStore.Integer

/-- Further digits only make a number larger. -/
theorem le_ofDigitChars (chars : List Char) (value : ℕ) :
    value ≤ Nat.ofDigitChars 10 chars value := by
  induction chars generalizing value with
  | nil => simp
  | cons c rest ih =>
    rw [Nat.ofDigitChars_cons]
    have hrest := ih (10 * value + (c.toNat - '0'.toNat))
    omega

/-- A digit is read as its distance from the digit zero. -/
theorem digit?_of_isDigit {c : Char} (h : c.isDigit = true) :
    digit? c = some (c.toNat - '0'.toNat) := by
  have hrange : '0'.toNat ≤ c.toNat ∧ c.toNat ≤ '9'.toNat := by
    simp only [Char.isDigit, ge_iff_le, Bool.and_eq_true, decide_eq_true_eq] at h
    exact h
  exact if_pos hrange

/-- Digits are read as the number that they stand for, up to a limit. -/
theorem magnitude_eq_ofDigitChars {limit : ℕ} {overflow : Fault} {chars : List Char}
    (hdigits : ∀ c ∈ chars, c.isDigit = true) {value : ℕ}
    (hlimit : Nat.ofDigitChars 10 chars value ≤ limit) :
    magnitude limit overflow value chars = .ok (Nat.ofDigitChars 10 chars value) := by
  induction chars generalizing value with
  | nil => simp [magnitude]
  | cons c rest ih =>
    rw [Nat.ofDigitChars_cons, Nat.mul_comm] at hlimit ⊢
    have hbelow : value * 10 + (c.toNat - '0'.toNat) ≤ limit :=
      (le_ofDigitChars rest _).trans hlimit
    unfold magnitude
    rw [digit?_of_isDigit (hdigits c List.mem_cons_self)]
    simp only [if_pos hbelow]
    exact ih (fun d hd => hdigits d (List.mem_cons_of_mem _ hd)) hlimit

/-- A row of digits is read as the integer that it stands for. -/
theorem read_of_isDigit {lowest highest : ℕ} {c : Char} {rest : List Char}
    (hdigits : ∀ d ∈ c :: rest, d.isDigit = true)
    (hhighest : Nat.ofDigitChars 10 (c :: rest) 0 ≤ highest) :
    read lowest highest (c :: rest) = .ok (Nat.ofDigitChars 10 (c :: rest) 0 : ℤ) := by
  have hfirst : c.isDigit = true := hdigits c List.mem_cons_self
  have hminus : c ≠ '-' := by
    rintro rfl
    exact absurd hfirst (by decide)
  have hplus : c ≠ '+' := by
    rintro rfl
    exact absurd hfirst (by decide)
  unfold read
  split <;> simp_all only [List.cons.injEq, ne_eq, reduceCtorEq, false_and]
  rw [magnitude_eq_ofDigitChars hdigits hhighest]
  rfl

/-- A positive integer is written with digits only. -/
theorem toList_write {i : Int64} (h : 1 ≤ i) :
    (write i.toInt).toList = Nat.toDigits 10 i.toInt.natAbs := by
  have hpositive : 1 ≤ i.toInt := Int64.le_iff_toInt_le.1 h
  unfold write digits
  rw [if_neg (by omega), String.toList_ofList]

/-- A positive integer is written in digits only. -/
theorem isDigit_of_mem_write {i : Int64} (h : 1 ≤ i) {c : Char}
    (hc : c ∈ (write i.toInt).toList) : c.isDigit = true := by
  rw [toList_write h] at hc
  exact Nat.isDigit_of_mem_toDigits (by decide) (by decide) hc

/-- A positive integer that was written is read as itself. -/
theorem readInt64_write {i : Int64} (h : 1 ≤ i) : readInt64 (write i.toInt) = .ok i := by
  have hpositive : 1 ≤ i.toInt := Int64.le_iff_toInt_le.1 h
  have hhighest : i.toInt ≤ 0x7fffffffffffffff := Int64.toInt_le i
  have hread : read 0x8000000000000000 0x7fffffffffffffff (write i.toInt).toList =
      .ok i.toInt := by
    have hnumber : Nat.ofDigitChars 10 (write i.toInt).toList 0 = i.toInt.natAbs := by
      rw [toList_write h, Nat.ofDigitChars_ten_toDigits]
    cases hchars : (write i.toInt).toList with
    | nil => exact absurd ((toList_write h).symm.trans hchars) Nat.toDigits_ne_nil
    | cons c rest =>
      rw [hchars] at hnumber
      rw [read_of_isDigit ?_ (by omega), hnumber, Int.natAbs_of_nonneg (by omega)]
      exact fun d hd => isDigit_of_mem_write h (hchars ▸ hd)
  unfold readInt64
  rw [hread]
  show Except.ok (Int64.ofInt i.toInt) = .ok i
  rw [Int64.ofInt_toInt]

/-! ### The texts of one integer -/

/-- What is read as a digit is one, and is read as its distance from the digit zero. -/
theorem isDigit_of_digit? {c : Char} {d : ℕ} (h : digit? c = some d) :
    c.isDigit = true ∧ d = c.toNat - '0'.toNat := by
  unfold digit? at h
  split at h
  · rename_i hrange
    refine ⟨?_, (Option.some.inj h).symm⟩
    simp only [Char.isDigit, ge_iff_le, Bool.and_eq_true, decide_eq_true_eq]
    exact hrange
  · exact absurd h (by simp)

/-- What has been read as a magnitude is a row of digits that stands for it. -/
theorem isDigit_of_magnitude {limit : ℕ} {overflow : Fault} {chars : List Char} {value n : ℕ}
    (hvalue : value ≤ limit) (h : magnitude limit overflow value chars = .ok n) :
    (∀ c ∈ chars, c.isDigit = true) ∧ n = Nat.ofDigitChars 10 chars value ∧ n ≤ limit := by
  induction chars generalizing value with
  | nil =>
    obtain rfl := Except.ok.inj h
    exact ⟨by simp, by simp, hvalue⟩
  | cons c rest ih =>
    unfold magnitude at h
    split at h
    · simp at h
    · rename_i d hdigit
      obtain ⟨hfirst, rfl⟩ := isDigit_of_digit? hdigit
      split at h
      · rename_i hbelow
        obtain ⟨hrest, hnumber, hlimit⟩ := ih hbelow h
        rw [Nat.mul_comm] at hnumber
        rw [List.forall_mem_cons, Nat.ofDigitChars_cons]
        exact ⟨⟨hfirst, hrest⟩, hnumber, hlimit⟩
      · simp at h

/-- A digit is the character of the number that it is read as. -/
theorem digitChar_of_isDigit {c : Char} (h : c.isDigit = true) :
    Nat.digitChar (c.toNat - '0'.toNat) = c ∧ c.toNat - '0'.toNat < 10 := by
  have hrange : '0'.toNat ≤ c.toNat ∧ c.toNat ≤ '9'.toNat := by
    simp only [Char.isDigit, ge_iff_le, Bool.and_eq_true, decide_eq_true_eq] at h
    exact h
  have hzero : '0'.toNat = 48 := rfl
  have hnine : '9'.toNat = 57 := rfl
  refine ⟨Char.toNat_inj.1 ?_, by omega⟩
  rw [Nat.toNat_digitChar_of_lt_ten (by omega)]
  omega

/-- Digits behind a positive number are the last digits of what they make of it. -/
theorem toDigits_ofDigitChars {chars : List Char} (hdigits : ∀ c ∈ chars, c.isDigit = true)
    {n : ℕ} (hn : 0 < n) :
    Nat.toDigits 10 (Nat.ofDigitChars 10 chars n) = Nat.toDigits 10 n ++ chars := by
  induction chars generalizing n with
  | nil => simp
  | cons c rest ih =>
    rw [List.forall_mem_cons] at hdigits
    obtain ⟨hchar, hten⟩ := digitChar_of_isDigit hdigits.1
    rw [Nat.ofDigitChars_cons, ih hdigits.2 (by omega),
      ← Nat.toDigits_append_toDigits (by decide) hn hten, Nat.toDigits_of_lt_base hten, hchar]
    simp

/-- Digits that do not start with a zero are those of the number that they stand for. -/
theorem toDigits_of_head_ne_zero {c : Char} {rest : List Char}
    (hdigits : ∀ d ∈ c :: rest, d.isDigit = true) (hc : c ≠ '0') :
    Nat.toDigits 10 (Nat.ofDigitChars 10 (c :: rest) 0) = c :: rest := by
  rw [List.forall_mem_cons] at hdigits
  obtain ⟨hchar, hten⟩ := digitChar_of_isDigit hdigits.1
  have hpositive : 0 < c.toNat - '0'.toNat := by
    refine Nat.pos_of_ne_zero fun hzero => hc ?_
    rw [← hchar, hzero]
    rfl
  rw [Nat.ofDigitChars_cons, Nat.mul_zero, Nat.zero_add, toDigits_ofDigitChars hdigits.2 hpositive,
    Nat.toDigits_of_lt_base hten, hchar]
  rfl

/-- The digits of a positive number do not start with a zero. -/
theorem exists_toDigits_eq_cons {n : ℕ} (hn : 0 < n) :
    ∃ c rest, Nat.toDigits 10 n = c :: rest ∧ '0' < c := by
  induction n using Nat.strongRecOn with
  | ind n ih =>
    rcases Nat.lt_or_ge n 10 with hten | hten
    · refine ⟨n.digitChar, [], Nat.toDigits_of_lt_base hten, ?_⟩
      show '0'.toNat < n.digitChar.toNat
      rw [Nat.toNat_digitChar_of_lt_ten hten]
      have hzero : '0'.toNat = 48 := rfl
      omega
    · obtain ⟨c, rest, hchars, hc⟩ := ih (n / 10) (by omega) (by omega)
      refine ⟨c, rest ++ [(n % 10).digitChar], ?_, hc⟩
      rw [Nat.toDigits_of_base_le (by decide) hten, hchars]
      rfl

/-- Of the texts that are read as a positive integer, the one that is written comes last: a sign and
leading zeros come before all other digits. -/
theorem le_write_of_readInt64 {text : String} {i : Int64} (h : readInt64 text = .ok i)
    (hi : 1 ≤ i) : text ≤ write i.toInt := by
  have hpositive : 1 ≤ i.toInt := Int64.le_iff_toInt_le.1 hi
  obtain ⟨first, others, hwritten, hfirst⟩ :=
    exists_toDigits_eq_cons (n := i.toInt.natAbs) (by omega)
  rw [← toList_write hi] at hwritten
  rw [String.le_iff_toList_le, hwritten]
  unfold readInt64 at h
  cases htext : text.toList with
  | nil => exact le_of_lt (List.nil_lt_cons first others)
  | cons c rest =>
    rw [htext] at h
    by_cases hc : c ≤ '0'
    · exact le_of_lt (List.Lex.rel (lt_of_le_of_lt hc hfirst))
    · -- Only digits are left, so that the text is the one that is written.
      have hminus : c ≠ '-' := by
        rintro rfl
        exact hc (by decide)
      have hplus : c ≠ '+' := by
        rintro rfl
        exact hc (by decide)
      have hzero : c ≠ '0' := by
        rintro rfl
        exact hc (le_refl _)
      have hread : read 0x8000000000000000 0x7fffffffffffffff (c :: rest) =
          (magnitude 0x7fffffffffffffff .tooLarge 0 (c :: rest)).map fun value => (value : ℤ) := by
        unfold read
        split <;> simp_all only [List.cons.injEq, ne_eq, reduceCtorEq, false_and]
      rw [hread] at h
      cases hnumber : magnitude 0x7fffffffffffffff .tooLarge 0 (c :: rest) with
      | error fault => simp [hnumber, Except.map] at h
      | ok n =>
        rw [hnumber] at h
        obtain ⟨hdigits, hvalue, hlimit⟩ := isDigit_of_magnitude (Nat.zero_le _) hnumber
        have hi' : i = Int64.ofInt n := (Except.ok.inj h).symm
        have hn : i.toInt = n := by
          rw [hi', Int64.toInt_ofInt_of_le (by omega) (by omega)]
        rw [← hwritten, toList_write hi, hn, Int.natAbs_natCast, hvalue,
          toDigits_of_head_ne_zero hdigits hzero]

end VersionedStore.Integer
