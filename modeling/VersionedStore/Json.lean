/-!
# JSON texts

A JSON text is read into a tree first, in which numbers and strings stand as they are written.
What they mean is asked afterwards, of those parts of the tree that are used: a number may be
out of range and a string may hold half of a surrogate pair in a part that nobody looks at.
-/

set_option autoImplicit false

namespace VersionedStore

namespace Json

/-- A number as it is written, in decimal digits. -/
structure Numeral where
  negative : Bool
  whole : List Char
  /-- The digits behind the point, if there is one. -/
  fraction : Option (List Char)
  /-- The sign (true for minus) and the digits of the exponent, if there is one. -/
  exponent : Option (Bool × List Char)

/-- A part of a string: a character, or an escaped unit of sixteen bits. -/
inductive Mark where
  | char (c : Char)
  | unit (n : Nat)

/-- The character of a pair of surrogates. -/
def pairedChar (high low : Nat) : Char :=
  Char.ofNat (0x10000 + (high - 0xD800) * 0x400 + (low - 0xDC00))

/-- Whether a unit is the first of a surrogate pair. -/
def isHighSurrogate (n : Nat) : Bool := decide (0xD800 ≤ n ∧ n ≤ 0xDBFF)

/-- Whether a unit is the second of a surrogate pair. -/
def isLowSurrogate (n : Nat) : Bool := decide (0xDC00 ≤ n ∧ n ≤ 0xDFFF)

/-- The characters of a string, in which surrogates have to come in pairs. -/
def chars? : List Mark → Option (List Char)
  | [] => some []
  | .char c :: rest => (chars? rest).map (c :: ·)
  | .unit n :: rest =>
    if isHighSurrogate n then
      match rest with
      | .unit m :: rest' =>
        if isLowSurrogate m then (chars? rest').map (pairedChar n m :: ·) else none
      | _ => none
    else if isLowSurrogate n then none
    else (chars? rest).map (Char.ofNat n :: ·)

/-- The text of a string. -/
def text? (marks : List Mark) : Option String := (chars? marks).map String.ofList

end Json

/-- A JSON text as a tree. -/
inductive Json where
  | null
  | boolean (b : Bool)
  | number (numeral : Json.Numeral)
  | string (marks : List Json.Mark)
  | array (items : List Json)
  | object (fields : List (List Json.Mark × Json))

namespace Json

mutual

/-- The number of arrays and objects that stand in each other at the deepest place. -/
def depth : Json → Nat
  | .array items => depthItems items + 1
  | .object fields => depthFields fields + 1
  | _ => 0

/-- The greatest depth among the items of an array. -/
def depthItems : List Json → Nat
  | [] => 0
  | item :: rest => max (depth item) (depthItems rest)

/-- The greatest depth among the fields of an object. -/
def depthFields : List (List Mark × Json) → Nat
  | [] => 0
  | (_, value) :: rest => max (depth value) (depthFields rest)

end

end Json

end VersionedStore
