import VersionedStore.Number.Double

/-!
# Rounding to the nearest double

`Double.ofRatio` is the double nearest to a quotient of whole numbers, a tie going to the even
mantissa; it is worked out with whole numbers only.  Integers, products, quotients and decimal
numbers are all rounded through it.
-/

set_option autoImplicit false

namespace VersionedStore.Double

/-- A quotient of whole numbers rounded to a whole number, halves going to the even one. -/
def roundHalfEven (num den : Nat) : Nat :=
  let quotient := num / den
  let twice := 2 * (num % den)
  if twice < den then quotient
  else if den < twice then quotient + 1
  else if quotient % 2 = 0 then quotient else quotient + 1

/-- The largest `k` with `2 ^ k ≤ num / den`, for positive `num` and `den`. -/
def binaryExponent (num den : Nat) : Int :=
  let estimate : Int := (num.log2 : Int) - den.log2
  let reached : Bool :=
    if 0 ≤ estimate then decide (den * Nat.pow 2 estimate.toNat ≤ num)
    else decide (den ≤ num * Nat.pow 2 (-estimate).toNat)
  if reached then estimate else estimate - 1

/-- The nearest double to `num / den`, ties to the even mantissa; beyond the largest finite
double stands the infinity.  The mantissa is rounded at the scale that leaves it fifty-three
bits, or at the least scale there is; a mantissa that rounds up to the next power of two
carries into the exponent bits by itself. -/
def ofRatio (negative : Bool) (num den : Nat) : Double :=
  if num = 0 then ofMagnitude negative 0
  else
    let scale : Int := max (-1074) (binaryExponent num den - 52)
    let mantissa :=
      if 0 ≤ scale then roundHalfEven num (den * Nat.pow 2 scale.toNat)
      else roundHalfEven (num * Nat.pow 2 (-scale).toNat) den
    let packed := (scale + 1074).toNat * leadingBit + mantissa
    ofMagnitude negative (min packed infinityMagnitude)

/-- The double nearest to an integer. -/
def ofInt (i : Int) : Double := ofRatio (decide (i < 0)) i.natAbs 1

/-- The product of the magnitudes of two finite doubles, rounded. -/
def mulMagnitude (a b : Double) : Double :=
  ofRatio false (a.ratio.1 * b.ratio.1) (a.ratio.2 * b.ratio.2)

/-- The quotient of the magnitudes of two finite doubles, rounded; the divisor is not zero. -/
def divMagnitude (a b : Double) : Double :=
  ofRatio false (a.ratio.1 * b.ratio.2) (a.ratio.2 * b.ratio.1)

/-- The double of the other sign. -/
def neg (d : Double) : Double := ofMagnitude (!d.isNegative) d.magnitude

end VersionedStore.Double
