/-!
# Sets of characters written as ranges

The character classes of the Unicode standard are kept as text: ranges of code points in
hexadecimal, in increasing order, such as `41-5a 61-7a aa`.  A `CharSet` is such a text taken
apart: increasing ranges that neither overlap nor touch, and that leave out the surrogates,
which are no characters.

* `CharSet.ofRanges` brings any ranges into that form.
* `CharSet.contains` looks for a character by binary search.
* `union`, `complement` and what follows from them are the operations of sets.
-/

set_option autoImplicit false

namespace VersionedStore.Unicode

/-- The value of a hexadecimal digit in small letters; other characters count as zero. -/
def hexValue (c : Char) : Nat :=
  if '0'.toNat ≤ c.toNat ∧ c.toNat ≤ '9'.toNat then c.toNat - '0'.toNat
  else if 'a'.toNat ≤ c.toNat ∧ c.toNat ≤ 'f'.toNat then c.toNat - 'a'.toNat + 10
  else 0

/-- The number that a row of hexadecimal digits spells. -/
def hexNumber (digits : List Char) : Nat := digits.foldl (fun n c => n * 16 + hexValue c) 0

/-- The words of a text, which are parted by single blanks. -/
def words (text : String) : List (List Char) := text.toList.splitOn ' '

/-- A range of code points: `41-5a`, or `aa` for a single one. -/
def rangeOf (word : List Char) : Nat × Nat :=
  match word.splitOn '-' with
  | [single] => (hexNumber single, hexNumber single)
  | low :: high :: _ => (hexNumber low, hexNumber high)
  | [] => (0, 0)

/-- The last code point. -/
def lastCode : Nat := 0x10FFFF

/-- The parts of a range on both sides of the surrogates. -/
def scalarParts (range : Nat × Nat) : List (Nat × Nat) :=
  [(range.1, min range.2 0xD7FF), (max range.1 0xE000, min range.2 lastCode)].filter
    fun part => part.1 ≤ part.2

/-- Adds a range behind ranges that are listed backwards; it starts no earlier than they do. -/
def joinRange (before : List (Nat × Nat)) (range : Nat × Nat) : List (Nat × Nat) :=
  match before with
  | [] => [range]
  | (first, last) :: earlier =>
    if range.1 ≤ last + 1 then (first, max last range.2) :: earlier else range :: before

/-- The ranges between increasing ranges, from a code point on. -/
def gaps (next : Nat) : List (Nat × Nat) → List (Nat × Nat)
  | [] => [(next, lastCode)]
  | (first, last) :: rest =>
    if next < first then (next, first - 1) :: gaps (last + 1) rest else gaps (last + 1) rest

/-- A set of characters as increasing ranges of code points. -/
structure CharSet where
  ranges : Array (Nat × Nat)
  deriving DecidableEq

namespace CharSet

/-- The characters of some ranges in any order. -/
def ofRanges (ranges : List (Nat × Nat)) : CharSet :=
  let sorted := (ranges.flatMap scalarParts).mergeSort fun a b => a.1 ≤ b.1
  ⟨(sorted.foldl joinRange []).reverse.toArray⟩

/-- Takes apart lines of increasing ranges. -/
def ofText (lines : List String) : CharSet :=
  ⟨(lines.flatMap fun line => (words line).map rangeOf).toArray⟩

/-- The characters from one code point to another. -/
def range (first last : Nat) : CharSet := ofRanges [(first, last)]

/-- A single character. -/
def single (c : Char) : CharSet := ⟨#[(c.toNat, c.toNat)]⟩

/-- Some characters. -/
def ofChars (chars : List Char) : CharSet := ofRanges (chars.map fun c => (c.toNat, c.toNat))

/-- No character. -/
def empty : CharSet := ⟨#[]⟩

/-- Every character. -/
def all : CharSet := range 0 lastCode

/-- Whether a set has no character. -/
def isEmpty (set : CharSet) : Bool := set.ranges.isEmpty

/-- Whether all characters of a set are those of ASCII. -/
def isAscii (set : CharSet) : Bool := set.ranges.all fun range => range.2 < 128

/-- The character of a set that has only one. -/
def only? (set : CharSet) : Option Char :=
  match set.ranges.toList with
  | [(first, last)] => if first = last then some (Char.ofNat first) else none
  | _ => none

/-- Looks for a code point among the ranges with index from `low` to below `high`, halving the
stretch at each step. -/
def searchRange (ranges : Array (Nat × Nat)) (code : Nat) : Nat → Nat → Nat → Bool
  | 0, _, _ => false
  | fuel + 1, low, high =>
    if low < high then
      let middle := (low + high) / 2
      let (first, last) := ranges.getD middle (0, 0)
      if code < first then searchRange ranges code fuel low middle
      else if last < code then searchRange ranges code fuel (middle + 1) high
      else true
    else false

/-- Whether a code point is in the set. -/
def containsCode (set : CharSet) (code : Nat) : Bool :=
  searchRange set.ranges code (set.ranges.size + 1) 0 set.ranges.size

/-- Whether a character is in the set. -/
def contains (set : CharSet) (c : Char) : Bool := set.containsCode c.toNat

/-- The characters of some sets. -/
def unionAll (sets : List CharSet) : CharSet := ofRanges (sets.flatMap fun set => set.ranges.toList)

/-- The characters of either set. -/
def union (a b : CharSet) : CharSet := unionAll [a, b]

/-- The characters that are not in the set. -/
def complement (set : CharSet) : CharSet := ofRanges (gaps 0 set.ranges.toList)

/-- The characters of both sets. -/
def intersection (a b : CharSet) : CharSet := (a.complement.union b.complement).complement

/-- The characters of the first set that are not in the second. -/
def difference (a b : CharSet) : CharSet := (a.complement.union b).complement

/-- The characters of exactly one of two sets. -/
def symmetricDifference (a b : CharSet) : CharSet := (a.difference b).union (b.difference a)

/-- The set, or its complement. -/
def negatedIf (negated : Bool) (set : CharSet) : CharSet :=
  if negated then set.complement else set

end CharSet

/-- The set with a name in a table of sets under all their names. -/
def named? (table : List (List String × CharSet)) (name : String) : Option CharSet :=
  (table.find? fun entry => entry.1.contains name).map Prod.snd

end VersionedStore.Unicode
