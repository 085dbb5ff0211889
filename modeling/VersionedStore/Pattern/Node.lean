import VersionedStore.Unicode.CharSet

/-!
# Patterns

A pattern is a tree of texts, sets of characters, assertions, groups, sequences, alternatives
and repetitions.  Only whether a pattern occurs in a text is asked, so which alternative is
preferred plays no role, and a group does no more than keep its content apart.

Patterns are built by functions that leave out what has no effect:

* `Node.ofSet`: a set with a single character is a text.
* `Node.ofSequence`: neighbouring texts become one, and sequences inside a sequence dissolve.
* `Node.ofAlternatives`: single characters and sets become one set, and what all alternatives
  begin with moves to their front.
* `Node.ofRepetition`: what takes no character need not be repeated.
-/

set_option autoImplicit false

namespace VersionedStore.Pattern

open VersionedStore.Unicode

/-- A condition on a place between two characters. -/
inductive Assertion where
  | textStart
  | textEnd
  /-- Behind a line end, which may be a carriage return if `carriageReturn` is set. -/
  | lineStart (carriageReturn : Bool)
  | lineEnd (carriageReturn : Bool)
  | wordBoundary (ascii : Bool)
  | noWordBoundary (ascii : Bool)
  | wordStart (ascii : Bool)
  | wordEnd (ascii : Bool)
  /-- No word character in front. -/
  | wordStartHalf (ascii : Bool)
  /-- No word character behind. -/
  | wordEndHalf (ascii : Bool)
  deriving DecidableEq

/-- A pattern. -/
inductive Node where
  | empty
  | literal (chars : List Char)
  | oneOf (set : CharSet)
  | assert (assertion : Assertion)
  /-- A group; every group of a pattern has a number of its own. -/
  | group (number : Nat) (node : Node)
  | sequence (nodes : List Node)
  | alternative (nodes : List Node)
  | repetition (node : Node) (least : Nat) (most : Option Nat)

namespace Node

mutual

/-- Whether two patterns are built in the same way. -/
def same : Node → Node → Bool
  | .empty, .empty => true
  | .literal a, .literal b => a == b
  | .oneOf a, .oneOf b => a == b
  | .assert a, .assert b => a == b
  | .group a node, .group b other => a == b && same node other
  | .sequence a, .sequence b => allSame a b
  | .alternative a, .alternative b => allSame a b
  | .repetition node least most, .repetition other least' most' =>
    least == least' && most == most' && same node other
  | _, _ => false

/-- Whether the patterns of two lists are built in the same way, one by one. -/
def allSame : List Node → List Node → Bool
  | [], [] => true
  | a :: rest, b :: others => same a b && allSame rest others
  | _, _ => false

end

mutual

/-- The least number of characters that an occurrence takes, unless a set without characters
stands in the way. -/
def shortest? : Node → Option Nat
  | .empty => some 0
  | .literal chars => some chars.length
  | .oneOf set => if set.isEmpty then none else some 1
  | .assert _ => some 0
  | .group _ node => shortest? node
  | .sequence nodes => shortestTogether? nodes
  | .alternative nodes => shortestOfAll? nodes
  | .repetition node least _ => (shortest? node).map (· * least)

/-- The least number of characters for a sequence. -/
def shortestTogether? : List Node → Option Nat
  | [] => some 0
  | node :: rest => do return (← shortest? node) + (← shortestTogether? rest)

/-- The least number of characters for alternatives. -/
def shortestOfAll? : List Node → Option Nat
  | [] => none
  | [node] => shortest? node
  | node :: rest => do return min (← shortest? node) (← shortestOfAll? rest)

end

mutual

/-- The greatest number of characters that an occurrence takes, if it is known. -/
def longest? : Node → Option Nat
  | .empty => some 0
  | .literal chars => some chars.length
  | .oneOf set => if set.isEmpty then none else some 1
  | .assert _ => some 0
  | .group _ node => longest? node
  | .sequence nodes => longestTogether? nodes
  | .alternative nodes => longestOfAll? nodes
  | .repetition node _ most => do return (← longest? node) * (← most)

/-- The greatest number of characters for a sequence. -/
def longestTogether? : List Node → Option Nat
  | [] => some 0
  | node :: rest => do return (← longest? node) + (← longestTogether? rest)

/-- The greatest number of characters for alternatives. -/
def longestOfAll? : List Node → Option Nat
  | [] => none
  | [node] => longest? node
  | node :: rest => do return max (← longest? node) (← longestOfAll? rest)

end

/-- The pattern of one character of a set. -/
def ofSet (set : CharSet) : Node :=
  match set.only? with
  | some c => .literal [c]
  | none => .oneOf set

/-- The members of a sequence; any other pattern is its own only member. -/
def members : Node → List Node
  | .empty => []
  | .sequence nodes => nodes
  | node => [node]

/-- Joins neighbouring texts. -/
def joinTexts (nodes : List Node) : List Node :=
  nodes.foldr
    (fun node joined =>
      match node, joined with
      | .literal chars, .literal behind :: rest => .literal (chars ++ behind) :: rest
      | node, joined => node :: joined)
    []

/-- The sequence of patterns. -/
def ofSequence (nodes : List Node) : Node :=
  match joinTexts (nodes.flatMap members) with
  | [] => .empty
  | [node] => node
  | joined => .sequence joined

/-- The branches of alternatives; any other pattern is its own only branch. -/
def branches : Node → List Node
  | .alternative nodes => nodes
  | node => [node]

/-- The character of a text that has only one. -/
def only? : Node → Option Char
  | .literal [c] => some c
  | _ => none

/-- The set of a pattern that takes one character of a set. -/
def set? : Node → Option CharSet
  | .oneOf set => some set
  | _ => none

/-- A single set in the place of alternatives that are all single characters or all sets. -/
def mergedSet? (nodes : List Node) : Option CharSet :=
  match nodes.mapM only? with
  | some chars => some (.ofChars chars)
  | none => (nodes.mapM set?).map .unionAll

/-- What two lists begin with alike. -/
def commonStart : List Node → List Node → List Node
  | a :: rest, b :: others => if same a b then a :: commonStart rest others else []
  | _, _ => []

/-- What all alternatives begin with, as far as all of them are sequences. -/
def sharedStart (nodes : List Node) : List Node :=
  let sequences := nodes.map fun node =>
    match node with
    | .sequence members => members
    | _ => []
  match sequences with
  | [] => []
  | first :: others => others.foldl commonStart first

/-- Alternatives that begin with nothing in common. -/
def ofDifferent (nodes : List Node) : Node :=
  match nodes.flatMap branches with
  | [] => .oneOf .empty
  | [node] => node
  | flat =>
    match mergedSet? flat with
    | some set => ofSet set
    | none => .alternative flat

/-- The alternatives between patterns. -/
def ofAlternatives (nodes : List Node) : Node :=
  let flat := nodes.flatMap branches
  let shared := sharedStart flat
  if shared.isEmpty || decide (flat.length < 2) then ofDifferent flat
  else
    let rests := flat.map fun node => ofSequence (node.members.drop shared.length)
    ofSequence (shared ++ [ofDifferent rests])

/-- The repetition of a pattern. -/
def ofRepetition (node : Node) (least : Nat) (most : Option Nat) : Node :=
  let takesNothing := node.longest? == some 0
  let least := if takesNothing then min least 1 else least
  let most := if takesNothing then some (min (most.getD 1) 1) else most
  match least, most with
  | 0, some 0 => .empty
  | 1, some 1 => node
  | least, most => .repetition node least most

end Node

/-- Why a text is not a pattern. -/
inductive Fault where
  | unclosedGroup
  | unopenedGroup
  | lookAround
  | groupName
  | flags
  | repetitionOfNothing
  | repetitionCount
  | unclosedClass
  | classRange
  | classItem
  | escape
  | backreference
  | property
  | notText
  | tooDeep
  | tooLarge
  deriving DecidableEq

/-- The wording of a fault. -/
def Fault.message : Fault → String
  | .unclosedGroup => "unclosed group"
  | .unopenedGroup => "unopened group"
  | .lookAround => "look-around is not supported"
  | .groupName => "invalid group name"
  | .flags => "invalid flags"
  | .repetitionOfNothing => "repetition operator missing expression"
  | .repetitionCount => "invalid repetition count"
  | .unclosedClass => "unclosed character class"
  | .classRange => "invalid character class range"
  | .classItem => "invalid item in character class"
  | .escape => "unrecognized escape sequence"
  | .backreference => "backreferences are not supported"
  | .property => "Unicode property not found"
  | .notText => "pattern can match what is not text"
  | .tooDeep => "pattern is nested too deeply"
  | .tooLarge => "pattern is too large"

end VersionedStore.Pattern
