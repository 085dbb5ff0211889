import VersionedStore.Proofs.Calendar.PaddedNumber
import Mathlib.Data.List.TakeWhile

/-!
# Steps of reading

A step of reading takes the characters that it is made for, and leaves what follows them.  Steps
that do so can be put one after the other, and then take the characters of both.

* `Reads`, `Reads.run_bind`: what a step takes, and where the next one goes on.
* `run_skip_bind`, `run_mark_bind`: characters that are passed over.
* `reads_number`, `reads_twoDigits`: numbers in a fixed width.
* `reads_looseNumber`, `reads_looseYear`: such numbers where there may be blanks and fewer digits.
-/

set_option autoImplicit false

namespace VersionedStore.Calendar

open VersionedStore.Text

variable {α β : Type}

/-- A step of reading takes the characters at the front for a value and leaves the rest. -/
def Reads (step : Reading α) (front : List Char) (value : α) : Prop :=
  ∀ rest, step.run (front ++ rest) = .ok (value, rest)

/-- After a step that succeeds, reading goes on with its value and with the characters that it
left. -/
theorem run_bind_ok {step : Reading α} {chars rest : List Char} {value : α}
    (h : step.run chars = .ok (value, rest)) (next : α → Reading β) :
    (step >>= next).run chars = (next value).run rest := by
  rw [StateT.run_bind, h]
  rfl

/-- The next step goes on with what a step has left. -/
theorem Reads.run_bind {step : Reading α} {front : List Char} {value : α}
    (h : Reads step front value) (next : α → Reading β) (rest : List Char) :
    (step >>= next).run (front ++ rest) = (next value).run rest :=
  run_bind_ok (h rest) next

/-- A step of reading may look at all that is left. -/
theorem run_get_bind (next : List Char → Reading β) (chars : List Char) :
    ((get : Reading (List Char)) >>= next).run chars = (next chars).run chars := rfl

/-! ### Characters -/

/-- One of some characters is taken. -/
theorem run_oneOf_cons {expected : List Char} {c : Char} (h : c ∈ expected) (rest : List Char) :
    (oneOf expected).run (c :: rest) = .ok (c, rest) := by
  have hcontains : expected.contains c = true := List.contains_iff_mem.2 h
  unfold oneOf
  rw [run_get_bind]
  simp only [hcontains, if_true]
  rfl

/-- One of some characters is passed over. -/
theorem run_skip_bind {expected : List Char} {c : Char} (h : c ∈ expected)
    (next : Unit → Reading β) (rest : List Char) :
    (discard (oneOf expected) >>= next).run (c :: rest) = (next ()).run rest := by
  have hskipped : (discard (oneOf expected)).run (c :: rest) = .ok ((), rest) := by
    show ((fun _ => ()) <$> oneOf expected).run (c :: rest) = _
    rw [StateT.run_map, run_oneOf_cons h]
    rfl
  exact run_bind_ok hskipped next

/-- After the character that is expected, reading goes on behind it. -/
theorem run_mark_bind (c : Char) (next : Unit → Reading β) (rest : List Char) :
    (mark c >>= next).run (c :: rest) = (next ()).run rest :=
  run_skip_bind (List.mem_singleton_self c) next rest

/-! ### Numbers -/

/-- No digit is a blank. -/
theorem isBlank_of_isSome_digit? {c : Char} (h : (Integer.digit? c).isSome = true) :
    isBlank c = false := by
  have hrange : 48 ≤ c.toNat ∧ c.toNat ≤ 57 := by
    unfold Integer.digit? at h
    split at h
    · assumption
    · simp at h
  obtain ⟨hlow, hhigh⟩ := hrange
  simp only [isBlank, Bool.or_eq_false_iff, decide_eq_false_iff_not, beq_eq_false_iff_ne]
  omega

/-- A written number begins with a digit, whatever follows it. -/
theorem exists_fixedDigits_append {width : ℕ} (hwidth : 0 < width) (n : ℕ) (rest : List Char) :
    ∃ c chars, fixedDigits width n ++ rest = c :: chars ∧ (Integer.digit? c).isSome = true := by
  cases hdigits : fixedDigits width n with
  | nil =>
    have hlength := length_fixedDigits width n
    rw [hdigits, List.length_nil] at hlength
    omega
  | cons c digits =>
    have hc : c ∈ fixedDigits width n := by simp [hdigits]
    exact ⟨c, digits ++ rest, rfl, isSome_digit?_of_mem hc⟩

/-- There are no blanks in front of a number. -/
theorem trimStart_fixedDigits {width : ℕ} (hwidth : 0 < width) (n : ℕ) (rest : List Char) :
    trimStart (fixedDigits width n ++ rest) = fixedDigits width n ++ rest := by
  obtain ⟨c, chars, hchars, hdigit⟩ := exists_fixedDigits_append hwidth n rest
  rw [hchars, trimStart, List.dropWhile_cons_of_neg (by simp [isBlank_of_isSome_digit? hdigit])]

/-- There are no blanks to pass over in front of a written number. -/
theorem run_blanks_fixedDigits {width : ℕ} (hwidth : 0 < width) (n : ℕ) (rest : List Char) :
    blanks.run (fixedDigits width n ++ rest) = .ok ((), fixedDigits width n ++ rest) := by
  show Except.ok ((), trimStart (fixedDigits width n ++ rest)) = _
  rw [trimStart_fixedDigits hwidth]

/-- One space in front of a written number is passed over. -/
theorem run_blanks_space {width : ℕ} (hwidth : 0 < width) (n : ℕ) (rest : List Char) :
    blanks.run (' ' :: (fixedDigits width n ++ rest)) =
      .ok ((), fixedDigits width n ++ rest) := by
  have hspace : trimStart (' ' :: (fixedDigits width n ++ rest)) =
      trimStart (fixedDigits width n ++ rest) := List.dropWhile_cons_of_pos (by decide)
  show Except.ok ((), trimStart (' ' :: (fixedDigits width n ++ rest))) = _
  rw [hspace, trimStart_fixedDigits hwidth]

/-- A character takes at least one byte. -/
theorem length_le_utf8Len (chars : List Char) : chars.length ≤ String.utf8Len chars := by
  induction chars with
  | nil => exact Nat.le_refl 0
  | cons c rest ih =>
    have hpos := Char.utf8Size_pos c
    rw [List.length_cons, String.utf8Len_cons]
    omega

/-- The digits of a number are taken by a step that takes no more digits than there are. -/
theorem reads_number {least width n : ℕ} (hleast : least ≤ width) (hwidth : width ≤ 18)
    (hn : n < 10 ^ width) : Reads (number least (some width)) (fixedDigits width n) n := by
  intro rest
  have hdigits : leadingDigits width (fixedDigits width n ++ rest) = fixedDigits width n := by
    unfold leadingDigits
    rw [List.take_left' (length_fixedDigits width n), List.takeWhile_eq_self_iff]
    exact fun c hc => isSome_digit?_of_mem hc
  -- What is left is counted in bytes, of which there are at least as many as characters.
  have hlength : ¬ (String.ofList (fixedDigits width n ++ rest)).utf8ByteSize < least := by
    have hbytes := length_le_utf8Len (fixedDigits width n ++ rest)
    rw [List.length_append, length_fixedDigits] at hbytes
    rw [String.utf8ByteSize_ofList]
    omega
  have hsmall : ¬ 0x8000000000000000 ≤ n := by
    have hpow : 10 ^ width ≤ 10 ^ 18 := Nat.pow_le_pow_right (by decide) hwidth
    omega
  unfold number
  rw [run_get_bind]
  simp only [Option.getD_some, hdigits, hlength, length_fixedDigits, if_false,
    spelled_fixedDigits hn, hsmall, Nat.not_lt.2 hleast]
  rw [List.drop_left' (length_fixedDigits width n)]
  rfl

/-- Two digits are read as their number if it lies within the bounds. -/
theorem reads_twoDigits {low high n : ℕ} (hlow : low ≤ n) (hhigh : n ≤ high) (hn : n < 100) :
    Reads (twoDigits low high) (fixedDigits 2 n) n := by
  intro rest
  unfold twoDigits
  rw [(reads_number (by decide) (by decide) hn).run_bind, if_pos ⟨hlow, hhigh⟩]
  rfl

/-- Two digits within bounds are also taken where there may be fewer. -/
theorem reads_looseNumber {low high n : ℕ} (hlow : low ≤ n) (hhigh : n ≤ high) (hn : n < 100) :
    Reads (looseNumber low high) (fixedDigits 2 n) n := by
  intro rest
  unfold looseNumber
  rw [run_bind_ok (run_blanks_fixedDigits (by decide) n rest),
    (reads_number (by decide) (by decide) hn).run_bind, if_pos ⟨hlow, hhigh⟩]
  rfl

/-- Four digits without a sign are a year. -/
theorem reads_looseYear {n : ℕ} (hn : n < 10000) :
    Reads looseYear (fixedDigits 4 n) (n : ℤ) := by
  intro rest
  obtain ⟨c, chars, hchars, hdigit⟩ :=
    exists_fixedDigits_append (by decide : 0 < 4) n rest
  have hnumber := reads_number (by decide : 1 ≤ 4) (by decide) hn rest
  have hyear : -0x80000000 ≤ (n : ℤ) ∧ (n : ℤ) < 0x80000000 := by omega
  unfold looseYear
  rw [run_bind_ok (run_blanks_fixedDigits (by decide) n rest), run_get_bind]
  -- The first character is a digit, and so neither of the signs.
  split <;> rename_i heq
  · rw [hchars, List.cons.injEq] at heq
    rw [heq.1] at hdigit
    simp [Integer.digit?] at hdigit
  · rw [hchars, List.cons.injEq] at heq
    rw [heq.1] at hdigit
    simp [Integer.digit?] at hdigit
  · rw [run_bind_ok hnumber, run_bind_ok rfl]
    simp only [if_pos hyear]
    rfl

end VersionedStore.Calendar
