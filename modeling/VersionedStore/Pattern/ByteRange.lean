import VersionedStore.Unicode.CharSet

/-!
# Sets of characters as rows of byte ranges

A machine that reads UTF-8 sees bytes, not characters.  A set of characters is then a list of
rows, each of which holds a range for every byte: the characters from `c0` to `ff` are the row
`c3`, `80-bf`.  `byteRows` cuts the ranges of a set where a row would not be exact.
-/

set_option autoImplicit false

namespace VersionedStore.Pattern

open VersionedStore.Unicode

/-- The bytes of a code point in UTF-8. -/
def utf8Bytes (code : Nat) : List Nat :=
  if code < 0x80 then [code]
  else if code < 0x800 then [0xC0 + code / 0x40, 0x80 + code % 0x40]
  else if code < 0x10000 then
    [0xE0 + code / 0x1000, 0x80 + code / 0x40 % 0x40, 0x80 + code % 0x40]
  else
    [0xF0 + code / 0x40000, 0x80 + code / 0x1000 % 0x40, 0x80 + code / 0x40 % 0x40,
     0x80 + code % 0x40]

/-- Cuts a range behind a code point inside it. -/
def cutBehind (last : Nat) (range : Nat × Nat) : List (Nat × Nat) :=
  if range.1 ≤ last ∧ last < range.2 then [(range.1, last), (last + 1, range.2)] else [range]

/-- Cuts off both ends of a range that covers blocks of a size only in part, if it meets more
than one block. -/
def cutBlocks (size : Nat) (range : Nat × Nat) : List (Nat × Nat) :=
  let first := range.1 / size
  let last := range.2 / size
  if first = last then [range]
  else
    let behindHead := if range.1 % size = 0 then range.1 else (first + 1) * size
    let head := if range.1 % size = 0 then [] else [(range.1, behindHead - 1)]
    let tailFrom := last * size
    if (range.2 + 1) % size = 0 || decide (tailFrom ≤ behindHead) then
      head ++ [(behindHead, range.2)]
    else head ++ [(behindHead, tailFrom - 1), (tailFrom, range.2)]

/-- The rows of byte ranges of a range of code points. -/
def rangeRows (range : Nat × Nat) : List (List (Nat × Nat)) :=
  let sameLength :=
    (cutBehind 0x7F range).flatMap fun part =>
      (cutBehind 0x7FF part).flatMap fun part => cutBehind 0xFFFF part
  let exact := sameLength.flatMap fun part =>
    if part.2 < 0x80 then [part]
    else
      (cutBlocks 0x40 part).flatMap fun part =>
        (cutBlocks 0x1000 part).flatMap fun part => cutBlocks 0x40000 part
  exact.map fun part => (utf8Bytes part.1).zip (utf8Bytes part.2)

/-- The rows of byte ranges of a set, in increasing order. -/
def byteRows (set : CharSet) : List (List (Nat × Nat)) := set.ranges.toList.flatMap rangeRows

/-- Rows joined at their beginnings: either a row ends here, or it goes on by one of some byte
ranges. -/
inductive ByteTree where
  | leaf
  | choice (choices : List ((Nat × Nat) × ByteTree))

/-- The tree of increasing rows of at most some length. -/
def byteTree : Nat → List (List (Nat × Nat)) → ByteTree
  | 0, _ => .leaf
  | length + 1, rows =>
    if rows.all List.isEmpty then .leaf
    else
      let groups := rows.splitBy fun a b => a.head? == b.head?
      .choice (groups.filterMap fun group =>
        (group.head?.bind List.head?).map fun first =>
          (first, byteTree length (group.map List.tail)))

end VersionedStore.Pattern
