import Std.Data.HashMap
import VersionedStore.Pattern.ByteRange

/-!
# Machines in the making

The machine of a pattern reads bytes of UTF-8.  Only its size is of interest, so a `Draft` is
what is known of a machine while its states are made one after the other: how many there are and
how many bytes their ways out take.  A machine may not grow above a limit.

States of a set of characters that lead to the same places are made only once, as far as they
are remembered.  What is remembered has a fixed number of places, and a state whose place is
taken drives the other one out, so that a large set may have some of its states twice.

* `Draft.grow?`: makes states, unless the machine becomes too large.
* `Draft.reuse?`: the state for a key, which is made if it is not remembered.
* `Part`: which states a part of a machine has; `Part.build?` makes them.
-/

set_option autoImplicit false

namespace VersionedStore.Pattern

/-- The bytes of a state without its ways out. -/
def stateWeight : Nat := 32

/-- The bytes of a way out to a state for a range of bytes. -/
def choiceWeight : Nat := 8

/-- The bytes of a way out that is taken without reading a byte. -/
def branchWeight : Nat := 4

/-- The number of bytes that a machine may take. -/
def machineLimit : Nat := 10 * 1024 * 1024

/-- The number of places for states that are made forwards. -/
def forwardPlaces : Nat := 10000

/-- The number of places for states that are made backwards. -/
def backwardPlaces : Nat := 1000

/-- A machine in the making.  Its states are numbered in the order in which they are made. -/
structure Draft where
  /-- The number of states. -/
  states : Nat
  /-- The bytes of all ways out. -/
  ways : Nat
  /-- The states that can be used again, with their keys, by place. -/
  remembered : Std.HashMap Nat (List Nat × Nat)

namespace Draft

/-- A machine without states. -/
def empty : Draft := ⟨0, 0, ∅⟩

/-- The bytes of a machine. -/
def bytes (draft : Draft) : Nat := stateWeight * draft.states + draft.ways

/-- Makes some states whose ways out take some bytes together. -/
def grow? (states ways : Nat) (draft : Draft) : Option Draft :=
  let grown := { draft with states := draft.states + states, ways := draft.ways + ways }
  if machineLimit < grown.bytes then none else some grown

/-- The place of a key among some places: the parts of the key are stirred into a word of
sixty-four bits one by one. -/
def place (places : Nat) (key : List Nat) : Nat :=
  let stirred :=
    key.foldl (fun word part => (word ^^^ UInt64.ofNat part) * 0x100000001b3) 0xcbf29ce484222325
  stirred.toNat % places

/-- The state that is remembered for a key. -/
def known? (draft : Draft) (place : Nat) (key : List Nat) : Option Nat :=
  match draft.remembered[place]? with
  | some (other, state) => if other == key then some state else none
  | none => none

/-- The state for a key, which is made and remembered if there is none. -/
def reuse? (places ways : Nat) (key : List Nat) (draft : Draft) : Option (Nat × Draft) :=
  let place := place places key
  match draft.known? place key with
  | some state => some (state, draft)
  | none =>
    let state := draft.states
    (draft.grow? 1 ways).map fun grown =>
      (state, { grown with remembered := grown.remembered.insert place (key, state) })

mutual

/-- The state from which a tree of byte ranges leads to a last state. -/
def treeState? (last : Nat) : ByteTree → Draft → Option (Nat × Draft)
  | .leaf, draft => some (last, draft)
  | .choice choices, draft => do
    let (key, draft) ← choiceKey? last choices draft
    reuse? forwardPlaces (choiceWeight * choices.length) key draft

/-- The key of a state with some choices: the bounds of each and the state that it leads to. -/
def choiceKey? (last : Nat) : List ((Nat × Nat) × ByteTree) → Draft → Option (List Nat × Draft)
  | [], draft => some ([], draft)
  | ((low, high), tree) :: rest, draft => do
    let (state, draft) ← treeState? last tree draft
    let (key, draft) ← choiceKey? last rest draft
    some (low :: high :: state :: key, draft)

end

/-- The states that read one character in a tree of byte ranges, and the one that they lead
to. -/
def growTree? (tree : ByteTree) (draft : Draft) : Option Draft := do
  let last := draft.states
  let (_, draft) ← treeState? last tree (← draft.grow? 1 0)
  some draft

/-- The state from which a row, read backwards, leads to a state. -/
def rowState? (row : List (Nat × Nat)) (state : Nat) (draft : Draft) : Option (Nat × Draft) :=
  row.foldlM
    (fun (state, draft) range => reuse? backwardPlaces 0 [state, range.1, range.2] draft)
    (state, draft)

/-- The states that read one character in rows of byte ranges backwards: one that branches to
all rows, and the one that they lead to. -/
def growRows? (rows : List (List (Nat × Nat))) (draft : Draft) : Option Draft := do
  let last := draft.states + 1
  rows.foldlM (fun draft row => (rowState? row last draft).map Prod.snd)
    (← draft.grow? 2 (branchWeight * rows.length))

/-- Makes the states of a part some times. -/
def times? (part : Draft → Option Draft) : Nat → Draft → Option Draft
  | 0, draft => some draft
  | n + 1, draft =>
    match part draft with
    | none => none
    | some grown => times? part n grown

end Draft

/-- Which states a part of a machine has, in the order in which they are made. -/
inductive Part where
  /-- Some states and the bytes of their ways out. -/
  | states (number ways : Nat)
  /-- The states that read one character forwards. -/
  | inTree (tree : ByteTree)
  /-- The states that read one character backwards. -/
  | inRows (rows : List (List (Nat × Nat)))
  | sequence (parts : List Part)
  | times (number : Nat) (part : Part)

namespace Part

mutual

/-- Makes the states of a part. -/
def build? : Part → Draft → Option Draft
  | .states number ways, draft => draft.grow? number ways
  | .inTree tree, draft => draft.growTree? tree
  | .inRows rows, draft => draft.growRows? rows
  | .sequence parts, draft => buildAll? parts draft
  | .times number part, draft => Draft.times? (fun draft => build? part draft) number draft

/-- Makes the states of some parts. -/
def buildAll? : List Part → Draft → Option Draft
  | [], draft => some draft
  | part :: rest, draft =>
    match build? part draft with
    | none => none
    | some grown => buildAll? rest grown

end

end Part

end VersionedStore.Pattern
