import VersionedStore.Number.Integer
import VersionedStore.Number.Rounding

/-!
# Reading doubles

A double is written as an optional sign followed by digits with at most one point and an
optional exponent, or by a word for infinity or for no number (in any letter case).  The
double read is the one nearest to the number written.
-/

set_option autoImplicit false

namespace VersionedStore.Decimal

/-- Why a text is not a double. -/
inductive Fault where
  | empty
  | invalid
  deriving DecidableEq

/-- The wording of a fault. -/
def Fault.message : Fault → String
  | .empty => "cannot parse float from empty string"
  | .invalid => "invalid float literal"

/-- Whether a character is a decimal digit. -/
def isDigit (c : Char) : Bool := (Integer.digit? c).isSome

/-- The number that a row of digits spells, continuing `value`. -/
def valueOf (value : Nat) (digits : List Char) : Nat :=
  digits.foldl (fun total c => total * 10 + (Integer.digit? c).getD 0) value

/-- The double nearest to `digits * 10 ^ exponent`.  Numbers that are out of reach of every
double are settled by their size alone, so that the power of ten is never built for them. -/
def scaled (negative : Bool) (digits : Nat) (exponent : Int) : Double :=
  if digits = 0 then Double.ofMagnitude negative 0
  else
    let size : Int := (Nat.toDigits 10 digits).length + exponent
    if 320 < size then Double.infinity negative
    else if size < -340 then Double.ofMagnitude negative 0
    else if 0 ≤ exponent then Double.ofRatio negative (digits * Nat.pow 10 exponent.toNat) 1
    else Double.ofRatio negative digits (Nat.pow 10 (-exponent).toNat)

/-- The number that the digits of an exponent spell; it grows no further once it is far beyond
the exponent of every double. -/
def exponentOf (digits : List Char) : Nat :=
  digits.foldl
    (fun total c => if total < 0x10000 then total * 10 + (Integer.digit? c).getD 0 else total) 0

/-- The exponent part of a number: nothing, or a mark, an optional sign and digits. -/
def exponentPart? : List Char → Option Int
  | [] => some 0
  | mark :: rest =>
    if mark = 'e' ∨ mark = 'E' then
      let (negative, digits) : Bool × List Char :=
        match rest with
        | '-' :: digits => (true, digits)
        | '+' :: digits => (false, digits)
        | digits => (false, digits)
      if digits.isEmpty || !digits.all isDigit then none
      else some (if negative then -(exponentOf digits : Int) else (exponentOf digits : Int))
    else none

/-- The letters of a text in small case, as far as they are ASCII. -/
def lowerAscii (chars : List Char) : List Char := chars.map Char.toLower

/-- Reads a number without its sign. -/
def readUnsigned (negative : Bool) (chars : List Char) : Except Fault Double :=
  if lowerAscii chars = "inf".toList ∨ lowerAscii chars = "infinity".toList then
    .ok (Double.infinity negative)
  else if lowerAscii chars = "nan".toList then .ok Double.nan
  else
    let whole := chars.takeWhile isDigit
    let afterWhole := chars.dropWhile isDigit
    let (fraction, afterFraction) : List Char × List Char :=
      match afterWhole with
      | '.' :: rest => (rest.takeWhile isDigit, rest.dropWhile isDigit)
      | rest => ([], rest)
    if whole.isEmpty && fraction.isEmpty then .error .invalid
    else
      match exponentPart? afterFraction with
      | none => .error .invalid
      | some exponent =>
        .ok (scaled negative (valueOf (valueOf 0 whole) fraction) (exponent - fraction.length))

/-- Reads a double. -/
def read (text : String) : Except Fault Double :=
  match text.toList with
  | [] => .error .empty
  | '-' :: rest => readUnsigned true rest
  | '+' :: rest => readUnsigned false rest
  | chars => readUnsigned false chars

end VersionedStore.Decimal
