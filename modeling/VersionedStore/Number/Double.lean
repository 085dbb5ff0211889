/-!
# Doubles as words

A double is its 64-bit word of the IEEE 754 interchange format: a sign bit, eleven exponent
bits and fifty-two fraction bits.  Everything the store asks of a double (how two compare,
which rational it stands for, its whole part) is said in exact integer arithmetic, so the
answers can be reasoned about.

* `Double.orderKey`: an integer that orders the doubles that are numbers.
* `Double.compare?`: the order of two doubles, `none` when one of them is not a number.
* `Double.mantissa`, `Double.scale`: the magnitude of a finite double is
  `mantissa * 2 ^ scale`.
* `Double.toInt64`: the whole part, brought into the range of 64-bit integers.
-/

set_option autoImplicit false

namespace VersionedStore

/-- A double, given by its interchange word. -/
structure Double where
  bits : UInt64
  deriving DecidableEq, Inhabited

namespace Double

/-- The sign bit of a word. -/
def signBit : Nat := 0x8000000000000000

/-- The bit above the fraction bits, which leads the mantissa of a normal double. -/
def leadingBit : Nat := 0x10000000000000

/-- The word without its sign bit. -/
def magnitude (d : Double) : Nat := d.bits.toNat % signBit

/-- Whether the sign bit is set. -/
def isNegative (d : Double) : Bool := decide (signBit ≤ d.bits.toNat)

/-- The magnitude word of the infinities: all exponent bits set, no fraction bit. -/
def infinityMagnitude : Nat := 2047 * leadingBit

/-- Whether the word stands for no number. -/
def isNaN (d : Double) : Bool := decide (infinityMagnitude < d.magnitude)

/-- Whether the word stands for one of the two infinities. -/
def isInfinite (d : Double) : Bool := decide (d.magnitude = infinityMagnitude)

/-- Whether the word stands for one of the two zeros. -/
def isZero (d : Double) : Bool := decide (d.magnitude = 0)

/-- The double of a sign and a magnitude word. -/
def ofMagnitude (negative : Bool) (magnitude : Nat) : Double :=
  ⟨UInt64.ofNat (if negative then signBit + magnitude else magnitude)⟩

/-- The zero without a sign. -/
def zero : Double := ⟨0⟩

/-- The word that answers show for every double that is not a number. -/
def nan : Double := ⟨0x7ff8000000000000⟩

/-- The infinity of a sign. -/
def infinity (negative : Bool) : Double := ofMagnitude negative infinityMagnitude

/-- Words of numbers grow with the magnitude of the number, so the signed magnitude orders
them; both zeros have the key zero. -/
def orderKey (d : Double) : Int := if d.isNegative then -(d.magnitude : Int) else d.magnitude

/-- The order of two doubles; a double that is not a number compares with nothing. -/
def compare? (a b : Double) : Option Ordering :=
  if a.isNaN || b.isNaN then none else some (compare a.orderKey b.orderKey)

/-- Numerical equality: the zeros are equal, and what is not a number equals nothing. -/
def equals (a b : Double) : Bool := !a.isNaN && !b.isNaN && a.orderKey == b.orderKey

/-- The exponent bits. -/
def exponentField (d : Double) : Nat := d.magnitude / leadingBit

/-- The whole number that the fraction bits, with the leading bit of a normal double, spell. -/
def mantissa (d : Double) : Nat :=
  if d.exponentField = 0 then d.magnitude else d.magnitude % leadingBit + leadingBit

/-- The power of two that the mantissa is multiplied with. -/
def scale (d : Double) : Int := if d.exponentField = 0 then -1074 else d.exponentField - 1075

/-- The magnitude of a finite double as a quotient of whole numbers. -/
def ratio (d : Double) : Nat × Nat :=
  if 0 ≤ d.scale then (d.mantissa * Nat.pow 2 d.scale.toNat, 1)
  else (d.mantissa, Nat.pow 2 (-d.scale).toNat)

/-- The least and the greatest 64-bit integer. -/
def int64Range : Int × Int := (-0x8000000000000000, 0x7fffffffffffffff)

/-- The whole part of a double, toward zero; what lies outside the 64-bit integers becomes the
nearest of them, and what is not a number becomes zero. -/
def toInt64 (d : Double) : Int64 :=
  if d.isNaN then 0
  else if d.isInfinite then
    Int64.ofInt (if d.isNegative then int64Range.1 else int64Range.2)
  else
    let whole : Int := ((d.ratio.1 / d.ratio.2 : Nat) : Int)
    let signed := if d.isNegative then -whole else whole
    Int64.ofInt (max int64Range.1 (min int64Range.2 signed))

end Double

end VersionedStore
