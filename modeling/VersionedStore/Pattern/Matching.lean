import VersionedStore.Pattern.Class
import VersionedStore.Pattern.Node

/-!
# Occurrences of patterns

A place in a text is the number of characters before it.  `Node.advance` gives all places where
an occurrence that starts at one of some places can end; it follows the tree of the pattern, so
a repetition needs no search, only rounds that stop when no new place is reached.  A pattern
occurs in a text if some place is reached from some place.
-/

set_option autoImplicit false

namespace VersionedStore.Pattern

open VersionedStore.Unicode

/-- The word characters of an assertion. -/
def wordSet (inAscii : Bool) : CharSet := if inAscii then asciiWord else wordClass

/-- Whether the character in front of a place is a word character. -/
def wordBefore (inAscii : Bool) (text : Array Char) (place : Nat) : Bool :=
  match place with
  | 0 => false
  | before + 1 => (text[before]?).any fun c => (wordSet inAscii).contains c

/-- Whether the character behind a place is a word character. -/
def wordBehind (inAscii : Bool) (text : Array Char) (place : Nat) : Bool :=
  (text[place]?).any fun c => (wordSet inAscii).contains c

/-- Whether an assertion holds at a place. -/
def Assertion.holds (text : Array Char) (place : Nat) : Assertion → Bool
  | .textStart => place == 0
  | .textEnd => place == text.size
  | .lineStart carriageReturn =>
    match place with
    | 0 => true
    | before + 1 =>
      match text[before]? with
      | some '\n' => true
      | some '\r' => carriageReturn && text[place]? != some '\n'
      | _ => false
  | .lineEnd carriageReturn =>
    match text[place]? with
    | none => true
    | some '\r' => carriageReturn
    | some '\n' =>
      !carriageReturn || place == 0 || text[place - 1]? != some '\r'
    | _ => false
  | .wordBoundary ascii => wordBefore ascii text place != wordBehind ascii text place
  | .noWordBoundary ascii => wordBefore ascii text place == wordBehind ascii text place
  | .wordStart ascii => !wordBefore ascii text place && wordBehind ascii text place
  | .wordEnd ascii => wordBefore ascii text place && !wordBehind ascii text place
  | .wordStartHalf ascii => !wordBefore ascii text place
  | .wordEndHalf ascii => !wordBehind ascii text place

/-- The places of `new` that are not in `places`, added to them. -/
def addPlaces (places new : List Nat) : List Nat :=
  new.foldl (fun all place => if all.contains place then all else place :: all) places

/-- Takes a step a number of times, or until the places stay as they are. -/
def takeRounds (step : List Nat → List Nat) : Nat → List Nat → List Nat
  | 0, places => places
  | rounds + 1, places =>
    let next := step places
    if next == places then places else takeRounds step rounds next

/-- Takes a step at most a number of times and gathers all places on the way; it ends early
when a round reaches nothing new. -/
def gatherRounds (step : List Nat → List Nat) : Nat → List Nat → List Nat → List Nat
  | 0, reached, _ => reached
  | rounds + 1, reached, front =>
    let new := (step front).filter fun place => !reached.contains place
    if new.isEmpty then reached
    else gatherRounds step rounds (addPlaces reached new) (addPlaces [] new)

/-- The places behind characters that stand at one of the given places. -/
def literalEnds (text : Array Char) (chars : List Char) (places : List Nat) : List Nat :=
  chars.foldl
    (fun places c =>
      places.filterMap fun place => if text[place]? = some c then some (place + 1) else none)
    places

/-- The places behind a character of a set that stands at one of the given places. -/
def setEnds (text : Array Char) (set : CharSet) (places : List Nat) : List Nat :=
  places.filterMap fun place =>
    match text[place]? with
    | some c => if set.contains c then some (place + 1) else none
    | none => none

mutual

/-- The places where occurrences of a pattern end that start at one of the given places. -/
def Node.advance (text : Array Char) : Node → List Nat → List Nat
  | .empty, places => places
  | .literal chars, places => literalEnds text chars places
  | .oneOf set, places => setEnds text set places
  | .assert assertion, places => places.filter fun place => assertion.holds text place
  | .group _ node, places => node.advance text places
  | .sequence nodes, places => advanceAll text nodes places
  | .alternative nodes, places => advanceAny text nodes places
  | .repetition node least most, places =>
    let begun := takeRounds (node.advance text) least places
    let rounds :=
      match most with
      | some bound => min (bound - least) (text.size + 1)
      | none => text.size + 1
    gatherRounds (node.advance text) rounds begun begun

/-- The places where a sequence ends. -/
def Node.advanceAll (text : Array Char) : List Node → List Nat → List Nat
  | [], places => places
  | node :: rest, places => Node.advanceAll text rest (node.advance text places)

/-- The places where one of some alternatives ends. -/
def Node.advanceAny (text : Array Char) : List Node → List Nat → List Nat
  | [], _ => []
  | node :: rest, places =>
    addPlaces (Node.advanceAny text rest places) (node.advance text places)

end

/-- Whether a pattern occurs in a text. -/
def Node.occursIn (node : Node) (text : String) : Bool :=
  let chars := text.toList.toArray
  !(node.advance chars (List.range (chars.size + 1))).isEmpty

end VersionedStore.Pattern
