import VersionedStore.Server.Payload

/-!
# Collations

A collation says how a server compares strings: by the rules of a locale, down to a strength, and
with some switches.  It is decoded from a document like a record, and a switch that is null
counts as not set.
-/

set_option autoImplicit false

namespace VersionedStore

/-- Which letter case comes first. -/
inductive CaseFirst where
  | upper | lower | off
  deriving DecidableEq

/-- Whether blanks and punctuation count. -/
inductive Alternate where
  | nonIgnorable | shifted
  deriving DecidableEq

/-- What may be passed over. -/
inductive MaxVariable where
  | punct | space
  deriving DecidableEq

/-- How strings are compared. -/
structure Collation where
  locale : String
  /-- From one, where base letters count only, to five, where everything does. -/
  strength : Option Int32 := none
  caseLevel : Option Bool := none
  caseFirst : Option CaseFirst := none
  numericOrdering : Option Bool := none
  alternate : Option Alternate := none
  maxVariable : Option MaxVariable := none
  normalization : Option Bool := none
  backwards : Option Bool := none

/-- The name of a choice. -/
def CaseFirst.name : CaseFirst → String
  | .upper => "upper"
  | .lower => "lower"
  | .off => "off"

/-- The name of a choice. -/
def Alternate.name : Alternate → String
  | .nonIgnorable => "non-ignorable"
  | .shifted => "shifted"

/-- The name of a choice. -/
def MaxVariable.name : MaxVariable → String
  | .punct => "punct"
  | .space => "space"

namespace Collation

/-- The name of a choice: a string, or a document whose only field has that name and a payload
that can be read. -/
def choiceName? : Value → Option String
  | .string name => some name
  | .document [(name, payload)] => if Payload.isReadable payload then some name else none
  | _ => none

/-- The choice of a name among some. -/
def choice? {α : Type} (name : α → String) (choices : List α) (value : Value) : Option α :=
  (choiceName? value).bind fun wanted => choices.find? fun choice => name choice == wanted

/-- A truth value. -/
def boolean? : Value → Option Bool
  | .boolean b => some b
  | _ => none

/-- A strength from one to five. -/
def strength? (value : Value) : Option Int32 :=
  (Record.int32? value).bind fun n => if 1 ≤ n ∧ n ≤ 5 then some n else none

/-- Decodes a value that may be null. -/
def nullable {α : Type} (decode : Value → Option α) : Value → Option (Option α)
  | .null => some none
  | value => (decode value).map some

/-- A switch, which is not set if it is missing. -/
def switch {α : Type} (decode : Value → Option α) (document : Document) (field : String) :
    Result (Option α) :=
  Record.optional (nullable decode) none document field

/-- The collation in a document. -/
def ofDocument (document : Document) : Result Collation := do
  let locale ← Record.required Record.text? document "locale"
  let strength ← switch strength? document "strength"
  let caseLevel ← switch boolean? document "caseLevel"
  let caseFirst ← switch (choice? CaseFirst.name [.upper, .lower, .off]) document "caseFirst"
  let numericOrdering ← switch boolean? document "numericOrdering"
  let alternate ← switch (choice? Alternate.name [.nonIgnorable, .shifted]) document "alternate"
  let maxVariable ← switch (choice? MaxVariable.name [.punct, .space]) document "maxVariable"
  let normalization ← switch boolean? document "normalization"
  let backwards ← switch boolean? document "backwards"
  pure
    { locale, strength, caseLevel, caseFirst, numericOrdering, alternate, maxVariable,
      normalization, backwards }

/-- A field, if its value is set. -/
def field? (name : String) (value : Option Value) : List (String × Value) :=
  match value with
  | some value => [(name, value)]
  | none => []

/-- The document of a collation, with the switches that are set. -/
def toDocument (collation : Collation) : Document :=
  [("locale", .string collation.locale)] ++
    field? "strength" (collation.strength.map .int32) ++
    field? "caseLevel" (collation.caseLevel.map .boolean) ++
    field? "caseFirst" (collation.caseFirst.map fun choice => .string choice.name) ++
    field? "numericOrdering" (collation.numericOrdering.map .boolean) ++
    field? "alternate" (collation.alternate.map fun choice => .string choice.name) ++
    field? "maxVariable" (collation.maxVariable.map fun choice => .string choice.name) ++
    field? "normalization" (collation.normalization.map .boolean) ++
    field? "backwards" (collation.backwards.map .boolean)

end Collation

end VersionedStore
