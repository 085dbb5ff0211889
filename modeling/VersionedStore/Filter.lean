import VersionedStore.Error
import VersionedStore.Pattern.Matching
import VersionedStore.Pattern.Reader
import VersionedStore.Value.Comparand

/-!
# Filters

A filter is a document.  Its fields must all hold of a document for it to match: `$and`, `$or`
and `$nor` join the filters in an array, and any other field is a path with a condition on the
value there.  A condition is a map of operators if it is a document whose first name starts
with a dollar sign, and otherwise a value to be equal to.

* `Condition.holds`: whether a condition holds of a value, which may be missing.
* `Filter.accepts`: whether a filter matches a document.

Both are evaluated from left to right and stop at what decides them, so that a mistake behind
that point is not noticed.
-/

set_option autoImplicit false

namespace VersionedStore

/-- Whether a name is that of an operator. -/
def isOperatorName (name : String) : Bool := name.toList.head? == some '$'

namespace Condition

/-- Whether a document is a map of operators. -/
def isOperatorMap (fields : List (String × Value)) : Bool :=
  match fields with
  | [] => false
  | (name, _) :: _ => isOperatorName name

/-- Whether a value equals an expected one.  A missing value equals null only, and an array
equals what is no array when one of its items does. -/
def equal (value : Option Value) (expected : Value) : Bool :=
  match value with
  | none =>
    match expected with
    | .null => true
    | _ => false
  | some value =>
    let expected := expected.comparand
    match value.comparand, expected with
    | .array items, .array others => (Comparand.array items).equals (.array others)
    | .array items, expected => items.any fun item => item.equals expected
    | actual, expected => actual.equals expected

/-- Whether a value stands in an accepted order to a bound.  A missing value does not, and an
array does when one of its items does. -/
def ordered (accept : Ordering → Bool) (value : Option Value) (bound : Value) : Bool :=
  let standsTo (comparand : Comparand) : Bool :=
    match comparand.compare? bound.comparand with
    | some order => accept order
    | none => false
  match value with
  | none => false
  | some value =>
    match value.comparand with
    | .array items => items.any standsTo
    | comparand => standsTo comparand

/-- The items of an operand that has to be an array. -/
def operandItems (operator : String) : Value → Result (List Value)
  | .array items => .ok items
  | _ => .error (.backend (.operandNotArray operator))

/-- Whether a value should be there, as the operand of `$exists` asks. -/
def asksForPresence : Value → Bool
  | .boolean b => b
  | .int32 i => i != 0
  | .int64 i => i != 0
  | _ => true

/-- The options of a pattern that are set by letters; other letters have no meaning. -/
def patternOptions (letters : String) : Pattern.Options :=
  { ignoreCase := letters.toList.contains 'i'
    multiLine := letters.toList.contains 'm'
    dotMatchesAll := letters.toList.contains 's'
    ignoreBlanks := letters.toList.contains 'x' }

/-- The pattern of a `$regex` operand with the `$options` beside it. -/
def patternOf (operand : Value) (options : Option Value) : Result Pattern.Node :=
  match operand with
  | .string text =>
    let letters : Result String :=
      match options with
      | none => .ok ""
      | some (.string letters) => .ok letters
      | some _ => .error (.backend .optionsNotString)
    match letters with
    | .error error => .error error
    | .ok letters =>
      (Pattern.read (patternOptions letters) text).mapError
        fun fault => .backend (.pattern text fault)
  | _ => .error (.backend .patternNotString)

/-- Whether a pattern occurs in a string, or in a string of an array. -/
def containsPattern (pattern : Pattern.Node) : Option Value → Bool
  | some (.string text) => pattern.occursIn text
  | some (.array items) =>
    items.any fun item =>
      match item with
      | .string text => pattern.occursIn text
      | _ => false
  | _ => false

/-- Whether an operator holds of a value.  `beside` is the whole map of operators, and `inner`
says whether the operand holds of the value as a condition. -/
def operatorHolds (value : Option Value) (beside : List (String × Value)) (operator : String)
    (operand : Value) (inner : Unit → Result Bool) : Result Bool :=
  match operator with
  | "$eq" => .ok (equal value operand)
  | "$ne" => .ok (!equal value operand)
  | "$gt" => .ok (ordered (· == .gt) value operand)
  | "$gte" => .ok (ordered (· != .lt) value operand)
  | "$lt" => .ok (ordered (· == .lt) value operand)
  | "$lte" => .ok (ordered (· != .gt) value operand)
  | "$in" => (operandItems operator operand).map fun items => items.any (equal value)
  | "$nin" => (operandItems operator operand).map fun items => !items.any (equal value)
  | "$exists" => .ok (value.isSome == asksForPresence operand)
  | "$not" => (inner ()).map fun held => !held
  | "$regex" =>
    (patternOf operand (Document.get? beside "$options")).map fun pattern =>
      containsPattern pattern value
  | "$options" =>
    if Document.contains beside "$regex" then .ok true
    else .error (.backend (.unsupportedOperator operator))
  | _ => .error (.backend (.unsupportedOperator operator))

mutual

/-- Whether a condition holds of a value. -/
def holds (value : Option Value) : Value → Result Bool
  | .document fields =>
    if isOperatorMap fields then allHold value fields fields
    else .ok (equal value (.document fields))
  | expected => .ok (equal value expected)

/-- Whether the operators of a list hold of a value; `beside` is the whole map. -/
def allHold (value : Option Value) (beside : List (String × Value)) :
    List (String × Value) → Result Bool
  | [] => .ok true
  | (operator, operand) :: rest =>
    match operatorHolds value beside operator operand fun _ => holds value operand with
    | .error error => .error error
    | .ok false => .ok false
    | .ok true => allHold value beside rest

end

end Condition

namespace Filter

/-- The filters in the operand of `$and`, `$or` or `$nor`. -/
def checkClauses (operator : String) : List Value → Result Unit
  | [] => .ok ()
  | .document _ :: rest => checkClauses operator rest
  | _ :: _ => .error (.backend (.clauseNotDocument operator))

mutual

/-- Whether a filter matches a document. -/
def accepts (document : Document) : List (String × Value) → Result Bool
  | [] => .ok true
  | (name, condition) :: rest =>
    match fieldAccepts document name condition with
    | .error error => .error error
    | .ok false => .ok false
    | .ok true => accepts document rest

/-- Whether one field of a filter holds of a document. -/
def fieldAccepts (document : Document) (name : String) : Value → Result Bool
  | .array clauses =>
    if name = "$and" then
      (checkClauses name clauses).bind fun _ => allAccept document clauses
    else if name = "$or" then
      (checkClauses name clauses).bind fun _ => anyAccepts document clauses
    else if name = "$nor" then
      (checkClauses name clauses).bind fun _ =>
        (anyAccepts document clauses).map fun found => !found
    else if isOperatorName name then .error (.backend (.unsupportedOperator name))
    else Condition.holds (Document.at? document name) (.array clauses)
  | condition =>
    if name = "$and" ∨ name = "$or" ∨ name = "$nor" then
      .error (.backend (.operandNotArray name))
    else if isOperatorName name then .error (.backend (.unsupportedOperator name))
    else Condition.holds (Document.at? document name) condition

/-- Whether all filters of an array match a document. -/
def allAccept (document : Document) : List Value → Result Bool
  | [] => .ok true
  | .document filter :: rest =>
    match accepts document filter with
    | .error error => .error error
    | .ok false => .ok false
    | .ok true => allAccept document rest
  | _ :: rest => allAccept document rest

/-- Whether some filter of an array matches a document. -/
def anyAccepts (document : Document) : List Value → Result Bool
  | [] => .ok false
  | .document filter :: rest =>
    match accepts document filter with
    | .error error => .error error
    | .ok true => .ok true
    | .ok false => anyAccepts document rest
  | _ :: rest => anyAccepts document rest

end

end Filter

end VersionedStore
