import VersionedStore.Pattern.Draft
import VersionedStore.Pattern.Node

/-!
# The size of a pattern

A pattern that would need too large a machine is refused.  The machine that is measured here
reads bytes of UTF-8, once forwards to find where an occurrence ends and once backwards to find
where it starts, and repetitions with bounds are written out in it.

* `Node.part`: the states of a pattern.
* `Node.machine`: the whole machine, which also passes over what stands before an occurrence.
* `Node.isTooLarge`: one of the two machines takes more than ten mebibytes.
-/

set_option autoImplicit false

namespace VersionedStore.Pattern

open VersionedStore.Unicode

/-- Which way a machine reads. -/
inductive Direction where
  | forwards
  | backwards
  deriving DecidableEq

/-- A state that goes on in one way only, or in none. -/
def Part.plain : Part := .states 1 0

/-- A state that branches two ways. -/
def Part.fork : Part := .states 1 (2 * branchWeight)

/-- The states that read one character of a set. -/
def Part.ofSet (direction : Direction) (set : CharSet) : Part :=
  if set.isAscii then .states 2 (choiceWeight * set.ranges.size)
  else
    let rows := byteRows set
    match direction with
    | .forwards => .inTree (byteTree 4 rows)
    | .backwards => .inRows rows

/-- The bytes of a text, in the order in which they are read. -/
def literalBytes (direction : Direction) (chars : List Char) : List Nat :=
  let bytes := chars.flatMap fun c => utf8Bytes c.toNat
  match direction with
  | .forwards => bytes
  | .backwards => bytes.reverse

/-- Puts a text in front of the texts that begin with the same byte. -/
def insertText (text : List Nat) : List (List (List Nat)) → List (List (List Nat))
  | [] => [[text]]
  | group :: groups =>
    if (group.head?.bind List.head?) == text.head? then (text :: group) :: groups
    else group :: insertText text groups

/-- What is left behind each first byte of texts. -/
def textsBehind (texts : List (List Nat)) : List (List (List Nat)) :=
  (texts.foldr insertText []).map fun group => group.map List.tail

/-- The states that read one of some texts; a text that ends here parts those before it from
those behind it. -/
def textParts : Nat → List (List Nat) → List Part
  | 0, _ => []
  | length + 1, texts =>
    if texts.all List.isEmpty then []
    else
      let ending := texts.takeWhile List.isEmpty
      let pieces := (ending.take 1 ++ texts.dropWhile List.isEmpty).splitOnP List.isEmpty
      let choices := (pieces.map textsBehind).filter fun behind => !behind.isEmpty
      .states 1 (branchWeight * (choices.length + (pieces.length - 1))) ::
        choices.flatMap fun behind =>
          .states 1 (if behind.length = 1 then 0 else choiceWeight * behind.length) ::
            behind.flatMap (textParts length)

/-- The characters of a text. -/
def Node.text? : Node → Option (List Char)
  | .literal chars => some chars
  | _ => none

/-- The states that read one of some texts, and the one that they lead to. -/
def Part.ofTexts (direction : Direction) (texts : List (List Char)) : Part :=
  let bytes := texts.map (literalBytes direction)
  .sequence (.plain :: textParts ((bytes.map List.length).foldl max 0 + 1) bytes)

/-- The states of alternatives: where they part and where they meet is made behind the second
of them. -/
def Part.ofAlternatives : List Part → Part
  | first :: second :: rest =>
    .sequence (first :: second :: .states 2 (branchWeight * (rest.length + 2)) :: rest)
  | parts => .sequence parts

/-- The states that repeat a part; `takesSome` says that the part takes a character at least. -/
def Part.repeated (takesSome : Bool) (part : Part) (least : Nat) (most : Option Nat) : Part :=
  match least, most with
  | 0, some 1 => .sequence [.fork, part, .plain]
  | 0, none =>
    if takesSome then .sequence [.fork, part] else .sequence [part, .fork, .fork, .plain]
  | least, none => .sequence [.times least part, .fork]
  | least, some most =>
    if least = most then .times least part
    else
      .sequence
        [if least = 0 then .plain else .times least part, .plain,
          .times (most - least) (.sequence [.fork, part])]

mutual

/-- The states of a pattern. -/
def Node.part (direction : Direction) : Node → Part
  | .empty => .plain
  | .literal chars => .states (literalBytes direction chars).length 0
  | .oneOf set => .ofSet direction set
  | .assert _ => .plain
  | .group _ node =>
    match direction with
    | .forwards => .sequence [.plain, node.part direction, .plain]
    | .backwards => node.part direction
  | .sequence nodes =>
    match direction with
    | .forwards => .sequence (parts direction nodes)
    | .backwards => .sequence (parts direction nodes).reverse
  | .alternative nodes =>
    match nodes.mapM Node.text? with
    | some texts => .ofTexts direction texts
    | none => .ofAlternatives (parts direction nodes)
  | .repetition node least most =>
    .repeated (node.shortest?.any (0 < ·)) (node.part direction) least most

/-- The states of some patterns. -/
def Node.parts (direction : Direction) : List Node → List Part
  | [] => []
  | node :: rest => node.part direction :: parts direction rest

end

namespace Node

/-- Whether an assertion is one that a pattern has to begin with (or to end with, if it is read
backwards). -/
def isBound (direction : Direction) (assertion : Assertion) : Bool :=
  match direction with
  | .forwards => assertion == .textStart
  | .backwards => assertion == .textEnd

mutual

/-- Whether every occurrence begins at the start of the text (or ends at its end, if it is read
backwards). -/
def isAnchored (direction : Direction) : Node → Bool
  | .assert assertion => isBound direction assertion
  | .group _ node => node.isAnchored direction
  | .sequence nodes =>
    match direction with
    | .forwards => anchoredFirst nodes
    | .backwards => (anchoredLast nodes).1
  | .alternative nodes => allAnchored direction nodes
  | .repetition node least _ => decide (0 < least) && node.isAnchored direction
  | _ => false

/-- Whether a sequence begins at the start of the text: an assertion may stand behind others,
but not behind a pattern that can take a character. -/
def anchoredFirst : List Node → Bool
  | [] => false
  | node :: rest =>
    node.isAnchored .forwards || (node.longest? == some 0 && anchoredFirst rest)

/-- Whether a sequence ends at the end of the text, and whether it can take no character. -/
def anchoredLast : List Node → Bool × Bool
  | [] => (false, true)
  | node :: rest =>
    let (found, takesNothing) := anchoredLast rest
    (found || (takesNothing && node.isAnchored .backwards),
      takesNothing && node.longest? == some 0)

/-- Whether all alternatives are anchored. -/
def allAnchored (direction : Direction) : List Node → Bool
  | [] => true
  | node :: rest => node.isAnchored direction && allAnchored direction rest

end

/-- The states that pass over what stands before an occurrence. -/
def searchPart (direction : Direction) (node : Node) : Part :=
  if node.isAnchored direction then .plain
  else .sequence [.fork, .states 2 choiceWeight]

/-- The states of the whole machine: the search, the pattern, the state that ends an occurrence
and, forwards, two more that note where it begins and ends. -/
def machine (direction : Direction) (node : Node) : Part :=
  let search := node.searchPart direction
  let part := node.part direction
  match direction with
  | .forwards => .sequence [search, .plain, part, .plain, .plain]
  | .backwards => .sequence [search, part, .plain]

/-- Whether the machine that reads in a direction takes too many bytes. -/
def outgrows (direction : Direction) (node : Node) : Bool :=
  ((node.machine direction).build? .empty).isNone

/-- Whether one of the machines of a pattern takes too many bytes. -/
def isTooLarge (node : Node) : Bool := node.outgrows .forwards || node.outgrows .backwards

end Node

end VersionedStore.Pattern
