import VersionedStore.Params.Rule
import VersionedStore.Value.Display

/-!
# Compiling parameters into filters

`Params.compile` applies a rule set to parameters.

1. Field rules are grouped by the field they target, in the order in which the fields first come
   up when the keys are gone through in order.  The operands of one field are gathered in one map
   of operators.
2. Dynamic rules follow, in the order of keys.  Their parameters are consumed, and the filters
   they make are merged into the result.
3. Unless the compilation is strict, parameters without a rule become conditions as they are.
4. Fields whose condition is an empty document are dropped; if none is left there is no filter.
-/

set_option autoImplicit false

namespace VersionedStore.Params

/-- The operator of membership. -/
def opIn : String := "$in"

/-- The operator of no membership. -/
def opNotIn : String := "$nin"

/-- The operator of equality. -/
def opEqual : String := "$eq"

/-- The operator of patterns. -/
def opPattern : String := "$regex"

/-- The options of a pattern. -/
def opOptions : String := "$options"

/-- The group of which all filters must match. -/
def opAll : String := "$and"

/-- The group of which one filter must match. -/
def opAny : String := "$or"

/-- The options that compiled patterns have: letter case is ignored. -/
def patternOptions : Value := .string "i"

/-- What a field rule contributes to a field that it targets. -/
structure Contribution where
  key : String
  operator : String
  convert : Option Convert.Converter

/-- The contributions of all field rules with their targets, in the order of keys. -/
def contributions (rules : RuleSet) : List (String × Contribution) :=
  rules.entries.flatMap fun (key, rule) =>
    match rule with
    | .field rule => rule.targets.map fun target => (target, ⟨key, rule.operator, rule.convert⟩)
    | .dynamic _ => []

/-- The contributions by target, the targets in the order in which they first come up. -/
def grouped (rules : RuleSet) : List (String × List Contribution) :=
  let all := contributions rules
  (all.map Prod.fst).eraseDups.map fun target =>
    (target, (all.filter fun entry => entry.1 == target).map Prod.snd)

/-- The dynamic rules by key. -/
def dynamicRules (rules : RuleSet) : List (String × Expansion) :=
  rules.entries.filterMap fun (key, rule) =>
    match rule with
    | .field _ => none
    | .dynamic expand => some (key, expand)

/-- The error of a value that could not be converted. -/
def conversionError (key : String) (raw : Value) (reason : String) : Error :=
  .conversion key raw.display raw.kind.name reason

/-- Applies a function to the text of a parameter, which has to be a string. -/
def convertText {α : Type} (key : String) (raw : Value) (f : String → Except String α) :
    Result α :=
  match raw with
  | .string text => (f text).mapError (conversionError key raw)
  | _ => .error (conversionError key raw "converter input must be a string")

/-- The operand that a parameter gives. -/
def operandOf (contribution : Contribution) (raw : Value) : Result Value :=
  match contribution.convert with
  | none => .ok raw
  | some convert => convertText contribution.key raw convert

/-- Adds an operand to the operators of a field; patterns ignore letter case. -/
def addOperand (operators : Document) (operator : String) (operand : Value) : Document :=
  let operators := Document.set operators operator operand
  if operator = opPattern then Document.set operators opOptions patternOptions else operators

/-- The operators of a field with several contributions: their operands are gathered as they
are.  Without any parameter there is no condition. -/
def gatherOperators (input : Document) :
    Option Document → List Contribution → Result (Option Document)
  | condition, [] => .ok condition
  | condition, contribution :: rest =>
    match Document.get? input contribution.key with
    | none => gatherOperators input condition rest
    | some raw =>
      match operandOf contribution raw with
      | .error error => .error error
      | .ok operand =>
        gatherOperators input
          (some (addOperand (condition.getD []) contribution.operator operand)) rest

/-- The operators of a field with one contribution.  An operand of membership has to be an
array, and null stands for no operand. -/
def singleOperator (contribution : Contribution) (operand : Value) : Result Document :=
  if contribution.operator = opIn ∨ contribution.operator = opNotIn then
    match operand with
    | .null => .ok []
    | .array items => .ok [(contribution.operator, .array items)]
    | other =>
      .error (.validation
        (.operandNotArray contribution.operator contribution.key other.kind))
  else .ok (addOperand [] contribution.operator operand)

/-- The condition on a field. -/
def conditionOf (input : Document) : List Contribution → Result (Option Document)
  | [contribution] =>
    match Document.get? input contribution.key with
    | none => .ok none
    | some raw => do
      let operand ← operandOf contribution raw
      let operators ← singleOperator contribution operand
      pure (some operators)
  | several => gatherOperators input none several

/-- Sets the conditions on the grouped fields. -/
def fieldConditions (input : Document) :
    Document → List (String × List Contribution) → Result Document
  | result, [] => .ok result
  | result, (target, several) :: rest =>
    match conditionOf input several with
    | .error error => .error error
    | .ok none => fieldConditions input result rest
    | .ok (some operators) =>
      fieldConditions input (Document.set result target (.document operators)) rest

/-- Adds members to the `$and` group of a filter, which then stands last. -/
def appendAll (result : Document) (members : List Value) : Document :=
  let existing : List Value :=
    match Document.get? result opAll with
    | some (.array existing) => existing
    | some other => [other]
    | none => []
  Document.set (Document.erase result opAll) opAll (.array (existing ++ members))

/-- Merges one field of a sub-filter into a filter.  The members of `$and` groups are gathered;
two `$or` groups must both hold; and the operators on a field are gathered in one map, where a
plain value counts as an operand of equality. -/
def mergeField (result : Document) (name : String) (condition : Value) : Document :=
  if name = opAll then
    match condition with
    | .array members => appendAll result members
    | other => appendAll result [other]
  else if name = opAny then
    match Document.get? result opAny with
    | none => Document.set result opAny condition
    | some previous =>
      appendAll (Document.erase result opAny)
        [.document [(opAny, previous)], .document [(opAny, condition)]]
  else
    let existing : Document :=
      match Document.get? result name with
      | some (.document existing) => existing
      | some plain => [(opEqual, plain)]
      | none => []
    let merged : Document :=
      match condition with
      | .document operators => Document.setAll existing operators
      | plain => Document.set existing opEqual plain
    Document.set result name (.document merged)

/-- Merges a sub-filter into a filter. -/
def mergeFilter (result subFilter : Document) : Document :=
  subFilter.foldl (fun result field => mergeField result field.1 field.2) result

/-- Applies dynamic rules: each takes its parameter away and merges the filter made of it. -/
def applyDynamic : Document → Document → List (String × Expansion) →
    Result (Document × Document)
  | input, result, [] => .ok (input, result)
  | input, result, (key, expand) :: rest =>
    match Document.get? input key with
    | none => applyDynamic input result rest
    | some raw =>
      match convertText key raw expand with
      | .error error => .error error
      | .ok subFilter => applyDynamic (Document.erase input key) (mergeFilter result subFilter) rest

/-- The parameters without a rule. -/
def withoutRule (rules : RuleSet) (input : Document) : Document :=
  input.filter fun field => !rules.contains field.1

/-- Whether a condition is an empty document, which says nothing. -/
def saysNothing : Value → Bool
  | .document [] => true
  | _ => false

/-- Drops the fields whose condition says nothing. -/
def dropEmpty (filter : Document) : Document := filter.filter fun field => !saysNothing field.2

/-- The outcome of a compilation. -/
structure Compiled where
  /-- The filter, if there is any condition. -/
  filter : Option Document
  /-- The parameters that no dynamic rule has consumed. -/
  remaining : Document

/-- The filter, or the one that matches everything. -/
def Compiled.filterOrAll (compiled : Compiled) : Document := compiled.filter.getD []

/-- Compiles parameters into a filter. -/
def compile (input : Document) (rules : RuleSet) (strict : Bool) : Result Compiled := do
  rules.validate
  let fields ← fieldConditions input [] (grouped rules)
  let (remaining, merged) ← applyDynamic input fields (dynamicRules rules)
  let passed :=
    if strict then merged else Document.setAll merged (withoutRule rules remaining)
  let result := dropEmpty passed
  pure ⟨if result.isEmpty then none else some result, remaining⟩

end VersionedStore.Params
