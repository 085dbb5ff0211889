/-!
# Reading integers

An integer is written with decimal digits after an optional sign.  `Integer.read` reads one
into a range and says what is wrong otherwise: the digits are taken from the left, and the
first that is no digit or leaves the range decides.
-/

set_option autoImplicit false

namespace VersionedStore.Integer

/-- Why a text is not an integer of the range. -/
inductive Fault where
  | empty
  | invalidDigit
  | tooLarge
  | tooSmall
  deriving DecidableEq

/-- The wording of a fault. -/
def Fault.message : Fault → String
  | .empty => "cannot parse integer from empty string"
  | .invalidDigit => "invalid digit found in string"
  | .tooLarge => "number too large to fit in target type"
  | .tooSmall => "number too small to fit in target type"

/-- The value of a decimal digit. -/
def digit? (c : Char) : Option Nat :=
  if '0'.toNat ≤ c.toNat ∧ c.toNat ≤ '9'.toNat then some (c.toNat - '0'.toNat) else none

/-- Continues a magnitude with digits while it stays at most `limit`; `overflow` is the fault
of a magnitude beyond it. -/
def magnitude (limit : Nat) (overflow : Fault) : Nat → List Char → Except Fault Nat
  | value, [] => .ok value
  | value, c :: rest =>
    match digit? c with
    | none => .error .invalidDigit
    | some d =>
      if value * 10 + d ≤ limit then magnitude limit overflow (value * 10 + d) rest
      else .error overflow

/-- Reads an integer between `-lowest` and `highest`. -/
def read (lowest highest : Nat) : List Char → Except Fault Int
  | [] => .error .empty
  | '-' :: [] => .error .invalidDigit
  | '+' :: [] => .error .invalidDigit
  | '-' :: digits => (magnitude lowest .tooSmall 0 digits).map fun value => -(value : Int)
  | '+' :: digits => (magnitude highest .tooLarge 0 digits).map fun value => (value : Int)
  | digits => (magnitude highest .tooLarge 0 digits).map fun value => (value : Int)

/-- Reads a 64-bit integer. -/
def readInt64 (text : String) : Except Fault Int64 :=
  (read 0x8000000000000000 0x7fffffffffffffff text.toList).map Int64.ofInt

/-- Reads a 32-bit integer. -/
def readInt32 (text : String) : Except Fault Int32 :=
  (read 0x80000000 0x7fffffff text.toList).map Int32.ofInt

/-- The decimal digits of a natural number. -/
def digits (n : Nat) : String := String.ofList (Nat.toDigits 10 n)

/-- The decimal digits of an integer, after a minus sign when it is negative. -/
def write (i : Int) : String := if i < 0 then "-" ++ digits i.natAbs else digits i.natAbs

end VersionedStore.Integer
