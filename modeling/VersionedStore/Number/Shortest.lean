import VersionedStore.Number.Rounding
import VersionedStore.Number.Integer

/-!
# The shortest decimal of a double

Every finite double stands for all numbers that round to it, an interval around its exact
value.  Its shortest decimal is the one with the fewest digits in that interval and, of those,
the nearest to the exact value.  `Double.shortest` works it out in whole numbers; the two
layouts below decide which of two equally near decimals is taken, where the point goes and when
an exponent is written.

* `Double.plain`: never an exponent, and no point for whole numbers.
* `Double.scientific`: a point always, and an exponent for large and small magnitudes.
-/

set_option autoImplicit false

namespace VersionedStore.Double

/-- Which of two equally near decimals is taken: the larger one, or the one whose last digit is
even. -/
inductive Tie where
  | up
  | even

/-- A decimal number `digits * 10 ^ exponent`. -/
structure ShortDecimal where
  digits : Nat
  exponent : Int

/-- The numbers that round to a finite positive double, as quotients with one denominator:
lower end, exact value, upper end.  Below a power of two the neighbouring double is only half
as far. -/
def roundingInterval (d : Double) : Nat × Nat × Nat × Nat :=
  let below := if d.mantissa = leadingBit ∧ 1 < d.exponentField then 1 else 2
  let quarterScale := d.scale - 2
  let (num, den) : Nat × Nat :=
    if 0 ≤ quarterScale then (Nat.pow 2 quarterScale.toNat, 1)
    else (1, Nat.pow 2 (-quarterScale).toNat)
  ((4 * d.mantissa - below) * num, 4 * d.mantissa * num, (4 * d.mantissa + 2) * num, den)

/-- The power of ten of the first digit of `num / den`, started from an estimate that is at
most a few too large. -/
def leadingPower (num den : Nat) : Nat → Int → Int
  | 0, power => power
  | fuel + 1, power =>
    let reached : Bool :=
      if 0 ≤ power then decide (den * Nat.pow 10 power.toNat ≤ num)
      else decide (den ≤ num * Nat.pow 10 (-power).toNat)
    if reached then power else leadingPower num den fuel (power - 1)

/-- Whether the lower of two neighbours is taken, given the distances to both. -/
def takesLower (tie : Tie) (lower distanceLower distanceUpper : Nat) : Bool :=
  if distanceLower = distanceUpper then
    match tie with
    | .up => false
    | .even => lower % 2 == 0
  else decide (distanceLower < distanceUpper)

/-- Tries the decimals on ever finer grids, the first of which has the step `10 ^ power`, until
one lies in the interval. -/
def onFirstGrid (tie : Tie) (low exact high den : Nat) (closed : Bool) : Nat → Int → ShortDecimal
  | 0, power => ⟨0, power⟩
  | fuel + 1, power =>
    let (stepNum, stepDen) : Nat × Nat :=
      if 0 ≤ power then (Nat.pow 10 power.toNat, 1) else (1, Nat.pow 10 (-power).toNat)
    let unit := den * stepNum
    let under := exact * stepDen / unit
    let within (candidate : Nat) : Bool :=
      let position := candidate * unit
      if closed then decide (low * stepDen ≤ position ∧ position ≤ high * stepDen)
      else decide (low * stepDen < position ∧ position < high * stepDen)
    let distanceUnder := exact * stepDen - under * unit
    let distanceOver := (under + 1) * unit - exact * stepDen
    if within under &&
        (!within (under + 1) || takesLower tie under distanceUnder distanceOver) then
      ⟨under, power⟩
    else if within (under + 1) then ⟨under + 1, power⟩
    else onFirstGrid tie low exact high den closed fuel (power - 1)

/-- Drops the trailing zeros of a decimal's digits. -/
def dropZeros : Nat → ShortDecimal → ShortDecimal
  | 0, decimal => decimal
  | fuel + 1, decimal =>
    if decimal.digits % 10 = 0 ∧ 0 < decimal.digits then
      dropZeros fuel ⟨decimal.digits / 10, decimal.exponent + 1⟩
    else decimal

/-- The shortest decimal that rounds to the magnitude of a finite double.  Seventeen digits
always suffice. -/
def shortest (tie : Tie) (d : Double) : ShortDecimal :=
  if d.isZero then ⟨0, 0⟩
  else
    let (low, exact, high, den) := d.roundingInterval
    let estimate : Int := (binaryExponent exact den + 1) * 30103 / 100000 + 1
    let power := leadingPower exact den 8 estimate
    dropZeros 20 (onFirstGrid tie low exact high den (d.mantissa % 2 == 0) 20 power)

/-- A row of zeros. -/
def zeros (count : Nat) : String := String.ofList (List.replicate count '0')

/-- The digits of a decimal with a point after the first `place` of them; zeros fill up on
either side.  Whole numbers end in `ending`. -/
def positional (digits : List Char) (place : Int) (ending : String) : String :=
  if place ≤ 0 then "0." ++ zeros (-place).toNat ++ String.ofList digits
  else if digits.length ≤ place.toNat then
    String.ofList digits ++ zeros (place.toNat - digits.length) ++ ending
  else
    String.ofList (digits.take place.toNat) ++ "." ++ String.ofList (digits.drop place.toNat)

/-- The minus sign of a double whose sign bit is set. -/
def signText (d : Double) : String := if d.isNegative then "-" else ""

/-- The text of a double without an exponent: `1`, `0.1`, `-0`, `NaN`, `inf`. -/
def plain (d : Double) : String :=
  if d.isNaN then "NaN"
  else if d.isInfinite then d.signText ++ "inf"
  else
    let decimal := d.shortest .up
    let digits := Nat.toDigits 10 decimal.digits
    d.signText ++ positional digits (digits.length + decimal.exponent) ""

/-- An exponent with its sign. -/
def exponentText (exponent : Int) : String :=
  (if exponent < 0 then "e-" else "e+") ++ Integer.digits exponent.natAbs

/-- The text of a double with a point always, and an exponent from `10 ^ 16` upward and below
`10 ^ -5`: `1.0`, `0.1`, `1.5e-7`, `1.8446744073709552e+19`.  There is no such text for what is not
finite. -/
def scientific? (d : Double) : Option String :=
  if d.isNaN || d.isInfinite then none
  else
    let decimal := d.shortest .even
    let digits := Nat.toDigits 10 decimal.digits
    let place : Int := digits.length + decimal.exponent
    if d.isZero then some (d.signText ++ "0.0")
    else if -5 < place ∧ place ≤ 16 then some (d.signText ++ positional digits place ".0")
    else
      let fraction := digits.drop 1
      let point := if fraction.isEmpty then "" else "."
      some (d.signText ++ String.ofList (digits.take 1) ++ point ++ String.ofList fraction ++
        exponentText (place - 1))

end VersionedStore.Double
