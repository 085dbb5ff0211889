import VersionedStore.Text.Hex

/-!
# Object ids

An object id is a word of twelve bytes, written as twenty-four hexadecimal digits.  Ids that a
store gives to documents come from an `IdSource`, which counts upward from a base.
-/

set_option autoImplicit false

namespace VersionedStore

/-- A twelve-byte id. -/
structure ObjectId where
  word : BitVec 96
  deriving DecidableEq, Inhabited

namespace ObjectId

/-- The order of ids: that of their bytes, the first byte first. -/
def order (a b : ObjectId) : Ordering := compare a.word.toNat b.word.toNat

/-- The twenty-four digits of an id. -/
def hex (id : ObjectId) : String := String.ofList (Text.hexDigits 24 id.word.toNat)

/-- Why a text is not an id. -/
inductive Fault where
  | length (length : Nat)
  | character (c : Char) (position : Nat)
  deriving DecidableEq

/-- The wording of a fault. -/
def Fault.message : Fault → String
  | .length n =>
    s!"BSON error. Kind: An ObjectId-related error occurred: invalid hex string length {n}."
  | .character c position =>
    "BSON error. Kind: An ObjectId-related error occurred: invalid character '" ++
      String.singleton c ++ s!"' encountered at index {position}."

/-- The number spelled by hexadecimal digits, given as bytes; the first byte that is no digit
is reported with its position. -/
def digitsValue : Nat → Nat → List UInt8 → Except Fault Nat
  | value, _, [] => .ok value
  | value, position, byte :: rest =>
    match Text.hexDigit? (Char.ofNat byte.toNat) with
    | some d => digitsValue (value * 16 + d) (position + 1) rest
    | none => .error (.character (Char.ofNat byte.toNat) position)

/-- Reads an id.  A text of odd length is measured in bytes, and any other text of digits in
the bytes that its digits stand for. -/
def read (text : String) : Except Fault ObjectId := do
  let bytes := text.toUTF8.toList
  if bytes.length % 2 = 1 then throw (.length bytes.length)
  let value ← digitsValue 0 0 bytes
  if bytes.length = 24 then pure ⟨BitVec.ofNat 96 value⟩
  else throw (.length (bytes.length / 2))

end ObjectId

/-- Where a store takes the ids of documents that bring none: the number of ids issued so far,
and the id before the first one. -/
structure IdSource where
  base : ObjectId
  issued : Nat
  deriving DecidableEq

namespace IdSource

/-- The id that is issued next. -/
def nextId (source : IdSource) : ObjectId :=
  ⟨source.base.word + BitVec.ofNat 96 (source.issued + 1)⟩

/-- The source after its next id has been used. -/
def advance (source : IdSource) : IdSource := { source with issued := source.issued + 1 }

/-- Which of the issued ids an id is, counted from one. -/
def ordinal? (source : IdSource) (id : ObjectId) : Option Nat :=
  let offset := (id.word - source.base.word).toNat
  if 0 < offset ∧ offset ≤ source.issued then some offset else none

end IdSource

end VersionedStore
