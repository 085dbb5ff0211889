import VersionedStore.Json
import VersionedStore.Number.Integer
import VersionedStore.Number.Rounding

/-!
# The numbers of JSON

A number without a fraction and an exponent is an integer if it fits 64 bits, with or without a
sign; all other numbers are doubles.

The double of a number is worked out in two rounded steps: its leading digits, as many as fit 64
bits, are rounded to a double, and that is multiplied with or divided by the power of ten.  The
result may differ from the nearest double in the last place.
-/

set_option autoImplicit false

namespace VersionedStore.Json

/-- The value of a number. -/
inductive Number where
  /-- An integer without a minus sign, below two to the power of 64. -/
  | natural (n : Nat)
  /-- An integer below zero, in 64 bits. -/
  | negative (i : Int)
  | double (d : Double)

namespace Numeral

/-- The largest word of 64 bits. -/
def wordLimit : Nat := 0xffffffffffffffff

/-- The value of a digit. -/
def digitValue (c : Char) : Nat := (Integer.digit? c).getD 0

/-- Takes digits as long as they spell a number that fits a word, and gives the rest. -/
def takeDigits : Nat → List Char → Nat × List Char
  | value, [] => (value, [])
  | value, c :: rest =>
    let value' := value * 10 + digitValue c
    if value' ≤ wordLimit then takeDigits value' rest else (value, c :: rest)

/-- The number that digits spell. -/
def spelled (digits : List Char) : Nat :=
  digits.foldl (fun value c => value * 10 + digitValue c) 0

/-- A power of ten, rounded. -/
def powerOfTen (n : Nat) : Double := Double.ofRatio false (Nat.pow 10 n) 1

/-- The largest power of ten that is a double. -/
def mostPower : Nat := 308

/-- Divides by the largest power of ten a number of times. -/
def divideDown : Nat → Double → Double
  | 0, d => d
  | times + 1, d => divideDown times (Double.divMagnitude d (powerOfTen mostPower))

/-- The double of leading digits and a power of ten, if it is finite.  A number that is divided
by the largest power more than three times is zero by then. -/
def scaled? (significand : Nat) (exponent : Int) : Option Double :=
  let start := Double.ofInt significand
  if significand = 0 then some start
  else if 0 ≤ exponent then
    if exponent ≤ mostPower then
      let product := Double.mulMagnitude start (powerOfTen exponent.toNat)
      if product.isInfinite then none else some product
    else none
  else
    let power := exponent.natAbs
    let times := (power - 1) / mostPower
    if 3 < times then some Double.zero
    else some
      (Double.divMagnitude (divideDown times start) (powerOfTen (power - times * mostPower)))

/-- The sign of a number on the double of its magnitude. -/
def signed (numeral : Numeral) (d : Double) : Double := if numeral.negative then d.neg else d

/-- The double of a number, if it is finite. -/
def double? (numeral : Numeral) : Option Double :=
  let (leading, passed) := takeDigits 0 numeral.whole
  let fraction := numeral.fraction.getD []
  let (significand, left) := takeDigits leading fraction
  let shift : Int := (passed.length : Int) - ((fraction.length : Int) - left.length)
  match numeral.exponent with
  | none => (scaled? significand shift).map numeral.signed
  | some (negative, digits) =>
    let exponent := spelled digits
    (scaled? significand (shift + if negative then -(exponent : Int) else exponent)).map
      numeral.signed

/-- The value of a number; there is none beyond the finite doubles. -/
def value? (numeral : Numeral) : Option Number :=
  match numeral.fraction, numeral.exponent with
  | none, none =>
    let magnitude := spelled numeral.whole
    if numeral.negative then
      if 0 < magnitude ∧ magnitude ≤ 0x8000000000000000 then some (.negative (-(magnitude : Int)))
      else numeral.double?.map .double
    else if magnitude ≤ wordLimit then some (.natural magnitude)
    else numeral.double?.map .double
  | _, _ => numeral.double?.map .double

end Numeral

end VersionedStore.Json
