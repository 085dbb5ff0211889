import VersionedStore.Number.Decimal
import VersionedStore.Number.Shortest

/-!
# Wide decimal numbers

A wide decimal number has a coefficient of up to thirty-four digits and a decimal exponent, and
unlike a double it is never rounded: a text whose number has no such form is refused.  It is
written as an optional sign followed by digits with at most one point and an optional exponent,
where the digits may be missing, or by a word for infinity or for no number.

Zeros at the end of the digits may give way to the exponent, and the other way round.

* `WideDecimal.read?`, `WideDecimal.text`: a number as a text.
* `WideDecimal.bytes`, `WideDecimal.ofBytes?`: a number as sixteen bytes.
-/

set_option autoImplicit false

namespace VersionedStore

/-- What a wide decimal number is without its sign. -/
inductive WideMagnitude where
  | notNumber (signaling : Bool)
  | infinite
  | finite (coefficient : Nat) (exponent : Int)
  deriving DecidableEq

/-- A wide decimal number. -/
structure WideDecimal where
  negative : Bool
  magnitude : WideMagnitude
  deriving DecidableEq

namespace WideDecimal

/-- The greatest number of digits. -/
def mostDigits : Nat := 34

/-- The least exponent. -/
def leastExponent : Int := -6176

/-- The greatest exponent. -/
def greatestExponent : Int := 6111

/-- An exponent that fits sixteen bits. -/
def narrow? (exponent : Int) : Option Int :=
  if -0x8000 ≤ exponent ∧ exponent < 0x8000 then some exponent else none

/-- A count of digits as an exponent. -/
def counted? (digits : Nat) : Option Int := narrow? digits

/-- The digits without zeros in front, of which one stays if there is nothing else. -/
def withoutZeros (digits : List Char) : List Char :=
  match digits.dropWhile (· == '0') with
  | [] => ['0']
  | rest => rest

/-- The first digits, behind which there may be zeros only. -/
def cut? (kept : Nat) (digits : List Char) : Option (List Char) :=
  if (digits.drop kept).all (· == '0') then some (digits.take kept) else none

/-- The digits and the exponent with no more digits than there may be. -/
def shortened? (digits : List Char) (exponent : Int) : Option (List Char × Int) :=
  if mostDigits < digits.length then do
    let kept ← cut? mostDigits digits
    let more ← counted? (digits.length - mostDigits)
    some (kept, ← narrow? (exponent + more))
  else some (digits, exponent)

/-- The digits and the exponent with an exponent that is not too small. -/
def raised? (digits : List Char) (exponent : Int) : Option (List Char × Int) :=
  if leastExponent ≤ exponent then some (digits, exponent)
  else if digits = ['0'] then some (digits, leastExponent)
  else
    let dropped := (leastExponent - exponent).toNat
    if digits.length < dropped then none
    else (cut? (digits.length - dropped) digits).map fun kept => (kept, leastExponent)

/-- The digits and the exponent with an exponent that is not too great. -/
def lowered? (digits : List Char) (exponent : Int) : Option (List Char × Int) :=
  if exponent ≤ greatestExponent then some (digits, exponent)
  else if digits = ['0'] then some (digits, greatestExponent)
  else
    let added := (exponent - greatestExponent).toNat
    if mostDigits < digits.length + added then none
    else some (digits ++ List.replicate added '0', greatestExponent)

/-- The number that digits spell, in front of which there may be a plus sign. -/
def coefficient? (chars : List Char) : Option Nat :=
  let digits :=
    match chars with
    | '+' :: rest => rest
    | chars => chars
  if digits.isEmpty || !digits.all Decimal.isDigit then none
  else some (Decimal.valueOf 0 digits)

/-- The digits on both sides of the first point, and how many stand behind it. -/
def withoutPoint (chars : List Char) : List Char × Nat :=
  match chars.dropWhile (· != '.') with
  | [] => (chars, 0)
  | _ :: behind => (chars.takeWhile (· != '.') ++ behind, behind.length)

/-- The exponent behind the mark for it, if there is a mark. -/
def exponentBehind? : List Char → Option Int
  | [] => some 0
  | _ :: digits => (Integer.read 0x8000 0x7fff digits).toOption

/-- The magnitude of a finite number, in small letters. -/
def finite? (chars : List Char) : Option WideMagnitude := do
  let written ← exponentBehind? (chars.dropWhile (· != 'e'))
  let (digits, behind) := withoutPoint (chars.takeWhile (· != 'e'))
  let exponent ← narrow? (written - (← counted? behind))
  let (digits, exponent) ← shortened? (withoutZeros digits) exponent
  let (digits, exponent) ← raised? digits exponent
  let (digits, exponent) ← lowered? digits exponent
  some (.finite (← coefficient? digits) exponent)

/-- The magnitude of a number without its sign. -/
def magnitude? (chars : List Char) : Option WideMagnitude :=
  match String.ofList (Decimal.lowerAscii chars) with
  | "nan" => some (.notNumber false)
  | "snan" => some (.notNumber true)
  | "inf" | "infinity" => some .infinite
  | text => finite? text.toList

/-- Reads a wide decimal number. -/
def read? (text : String) : Option WideDecimal :=
  match text.toList with
  | '-' :: rest => (magnitude? rest).map (⟨true, ·⟩)
  | '+' :: rest => (magnitude? rest).map (⟨false, ·⟩)
  | chars => (magnitude? chars).map (⟨false, ·⟩)

/-- The text of a magnitude.  A finite number has one digit in front of the point and an exponent if
its own exponent is positive or more than five zeros would follow the point. -/
def magnitudeText : WideMagnitude → String
  | .notNumber signaling => if signaling then "sNaN" else "NaN"
  | .infinite => "Infinity"
  | .finite coefficient exponent =>
    let digits := Nat.toDigits 10 coefficient
    let place : Int := digits.length + exponent
    if exponent ≤ 0 ∧ -6 < place then Double.positional digits place ""
    else
      let fraction := digits.drop 1
      let point := if fraction.isEmpty then "" else "."
      let sign := if 1 < place then "+" else ""
      String.ofList (digits.take 1) ++ point ++ String.ofList fraction ++ "E" ++ sign ++
        Integer.write (place - 1)

/-- The text of a wide decimal number. -/
def text (number : WideDecimal) : String :=
  (if number.negative then "-" else "") ++ magnitudeText number.magnitude

/-- The bits of a magnitude: the exponent, counted from the least one, in front of the coefficient,
or a mark that no exponent has. -/
def magnitudeBits : WideMagnitude → Nat
  | .notNumber signaling => 31 <<< 122 + (if signaling then 1 <<< 121 else 0)
  | .infinite => 30 <<< 122
  | .finite coefficient exponent => (exponent - leastExponent).toNat <<< 113 + coefficient

/-- The magnitude of bits behind the sign.  A coefficient with too many digits counts as zero, and
so does one that is marked as longer still. -/
def magnitudeOfBits (bits : Nat) : WideMagnitude :=
  let mark := bits >>> 122
  if mark = 31 then .notNumber (bits.testBit 121)
  else if mark = 30 then .infinite
  else if 24 ≤ mark then
    let place := (bits >>> 111) % 0x4000
    .finite 0 (place + leastExponent)
  else
    let place := bits >>> 113
    let coefficient := bits % (1 <<< 113)
    .finite (if coefficient < Nat.pow 10 mostDigits then coefficient else 0) (place + leastExponent)

/-- The sixteen bytes of a wide decimal number, the last bits first. -/
def bytes (number : WideDecimal) : List UInt8 :=
  let bits := (if number.negative then 1 <<< 127 else 0) + magnitudeBits number.magnitude
  (List.range 16).map fun place => UInt8.ofNat (bits >>> (8 * place))

/-- The wide decimal number of sixteen bytes. -/
def ofBytes? (bytes : List UInt8) : Option WideDecimal :=
  if bytes.length = 16 then
    let bits := bytes.foldr (fun byte bits => bits * 256 + byte.toNat) 0
    some ⟨bits.testBit 127, magnitudeOfBits (bits % (1 <<< 127))⟩
  else none

end WideDecimal

end VersionedStore
