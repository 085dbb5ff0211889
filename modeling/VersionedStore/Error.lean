import VersionedStore.Number.Integer
import VersionedStore.Pattern.Node
import VersionedStore.Value

/-!
# Errors

Every operation of the library fails with an `Error`, which says what went wrong by cause.  An
error may wrap another one with the context in which it arose.

* `Error.message`: the wording.
* `Error.root`: the error inside the wrappers for migration and activation.
* `Error.isDuplicateKey`: whether the innermost error is a collision in a unique index.
* `Error.sources`: the wordings of the errors inside, the nearest first.
-/

set_option autoImplicit false

namespace VersionedStore

/-- What is wrong with a declaration that was made in advance. -/
inductive ConfigFault where
  | emptyIndexName
  | delimiterInIndexName (name : String)
  | indexVersionBelowOne (name : String) (version : Int64)
  | storedIndexNameShape (stored space : String)
  | storedIndexVersion (stored space version : String)
  | ruleWithoutTarget (key : String)
  | ruleWithoutOperator (key : String)
  | emptyGroup
  | mixedProjection
  | targetBelowOne (target : Int64)
  | nothingAttached
  | other (text : String)

/-- The wording of a fault in a declaration. -/
def ConfigFault.text : ConfigFault → String
  | .emptyIndexName => "index name must not be empty"
  | .delimiterInIndexName name => s!"index name [{name}] must not contain [-]"
  | .indexVersionBelowOne name version =>
    s!"index [{name}] must have a version >= 1, got " ++ Integer.write version.toInt
  | .storedIndexNameShape stored space =>
    s!"index name must be [name-version], found [{stored}] in {space}"
  | .storedIndexVersion stored space version =>
    s!"index [{stored}] in {space} has a non-integer version [{version}]"
  | .ruleWithoutTarget key => s!"query spec [{key}] must target at least one non-empty field"
  | .ruleWithoutOperator key => s!"query spec [{key}] has no operator"
  | .emptyGroup => "logical query node must have at least one child"
  | .mixedProjection => "a projection cannot both include and exclude fields"
  | .targetBelowOne target =>
    "target version must be >= 1, got " ++ Integer.write target.toInt
  | .nothingAttached => "versioned collection has no attached collection"
  | .other text => text

/-- What is wrong with an input. -/
inductive ValidationFault where
  | operandNotArray (operator key : String) (kind : Value.Kind)
  | negativeLimit (limit : Int64)
  | negativeStart (start : Int64)
  | other (text : String)

/-- The wording of a fault in an input. -/
def ValidationFault.text : ValidationFault → String
  | .operandNotArray operator key kind =>
    s!"{operator} value for key [{key}] must be an array, got " ++ kind.name
  | .negativeLimit limit => "limit must be >= 0, got " ++ Integer.write limit.toInt
  | .negativeStart start => "start must be >= 0, got " ++ Integer.write start.toInt
  | .other text => text

/-- Why a store rejects a request. -/
inductive BackendFault where
  | reservedIndex (name space : String)
  | indexDiffers (name space : String)
  | indexMissing (name space : String)
  | idChanged (space : String)
  | unsupportedOperator (operator : String)
  | operandNotArray (operator : String)
  | clauseNotDocument (operator : String)
  | patternNotString
  | optionsNotString
  | pattern (text : String) (fault : Pattern.Fault)
  | other (text : String)

/-- The wording of a rejection. -/
def BackendFault.text : BackendFault → String
  | .reservedIndex name space => s!"cannot create reserved index {name} in {space}"
  | .indexDiffers name space => s!"index {name} already exists in {space} with different options"
  | .indexMissing name space => s!"index {name} not found in {space}"
  | .idChanged space => s!"replacement would change the _id of a document in {space}"
  | .unsupportedOperator operator =>
    s!"operator {operator} is not supported by the in-memory store"
  | .operandNotArray operator => s!"{operator} needs an array"
  | .clauseNotDocument operator => s!"{operator} clauses must be documents"
  | .patternNotString => "$regex needs a string pattern"
  | .optionsNotString => "$options must be a string"
  | .pattern text fault => s!"invalid $regex [{text}]: " ++ fault.message
  | .other text => text

/-- What an operation fails with. -/
inductive Error where
  | config (fault : ConfigFault)
  | conversion (key value typeName reason : String)
  | validation (fault : ValidationFault)
  | incompatibleVersion (collection : String) (target : Int64)
  /-- Another error, with what was being done when it arose. -/
  | during (context : String) (cause : Error)
  /-- A failure from outside the library, with what was being done when it arose. -/
  | duringForeign (context text : String)
  | serialization (reason : String)
  | backend (fault : BackendFault)
  | duplicateKey (space index : String)
  | documentNotFound (collection : String)
  | migration (collection : String) (cause : Error)
  | activation (collection : String) (cause : Error)

namespace Error

/-- The wording of an error. -/
def message : Error → String
  | .config fault => "Configuration error: " ++ fault.text
  | .conversion key value typeName reason =>
    s!"Conversion error for key '{key}': value {value} of type {typeName}: {reason}"
  | .validation fault => "Validation error: " ++ fault.text
  | .incompatibleVersion collection target =>
    s!"Collection {collection} contains documents newer than version " ++
      Integer.write target.toInt
  | .during context cause => context ++ ": " ++ cause.message
  | .duringForeign context text => context ++ ": " ++ text
  | .serialization reason => "Serialization error: " ++ reason
  | .backend fault => "Backend error: " ++ fault.text
  | .duplicateKey space index => s!"Duplicate key in {space} for index {index}"
  | .documentNotFound collection => s!"Document not found in collection {collection}"
  | .migration collection cause =>
    s!"Migration of collection {collection} failed: " ++ cause.message
  | .activation collection cause =>
    s!"Activation of collection {collection} failed: " ++ cause.message

/-- The error inside the wrappers for migration and activation. -/
def root : Error → Error
  | .migration _ cause => cause.root
  | .activation _ cause => cause.root
  | error => error

/-- Looking inside wrappers makes no error larger. -/
theorem sizeOf_root_le (error : Error) : sizeOf error.root ≤ sizeOf error := by
  induction error with
  | migration collection cause ih => exact Nat.le_trans ih (Nat.le_add_left _ _)
  | activation collection cause ih => exact Nat.le_trans ih (Nat.le_add_left _ _)
  | _ => exact Nat.le_refl _

/-- Whether the error inside all wrappers is a collision in a unique index.  Where the wrappers for
migration and activation end at an error with what was being done, this is asked of its cause. -/
def isDuplicateKey (error : Error) : Bool :=
  match _ : error.root with
  | .duplicateKey _ _ => true
  | .during _ cause => cause.isDuplicateKey
  | _ => false
termination_by sizeOf error
decreasing_by
  rename_i hroot
  have hle := error.sizeOf_root_le
  rw [hroot, during.sizeOf_spec] at hle
  omega

/-- The wordings of the errors inside, the nearest first. -/
def sources : Error → List String
  | .migration _ cause => cause.message :: cause.sources
  | .activation _ cause => cause.message :: cause.sources
  | .during _ cause => cause.message :: cause.sources
  | .duringForeign _ text => [text]
  | _ => []

/-- The error inside all wrappers. -/
def innermost : Error → Error
  | .migration _ cause => cause.innermost
  | .activation _ cause => cause.innermost
  | .during _ cause => cause.innermost
  | error => error

end Error

/-- A result or an error. -/
abbrev Result (α : Type) := Except Error α

/-- Wraps the error of a failed result with what was being done. -/
def Result.during {α : Type} (context : String) (result : Result α) : Result α :=
  result.mapError (Error.during context)

end VersionedStore
