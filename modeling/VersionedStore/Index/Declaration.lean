import VersionedStore.Error
import VersionedStore.Index.Definition
import VersionedStore.Text.Blank

/-!
# Declared indexes

An index is declared under a name and a version, and is stored under both: `title-2` is the
second version of the index `title`.  `IndexDeclaration.declare` admits the names and versions
that can be told apart again in the stored name, and `ExistingIndex.parse` does so.
-/

set_option autoImplicit false

namespace VersionedStore

/-- The character between the name and the version in the stored name of an index. -/
def indexDelimiter : Char := '-'

/-- An index that a collection should have. -/
structure IndexDeclaration where
  name : String
  version : Int64
  definition : IndexDefinition
  name_ne_empty : name ≠ ""
  delimiter_not_mem_name : indexDelimiter ∉ name.toList
  one_le_version : 1 ≤ version

namespace IndexDeclaration

/-- Declares an index.  The name must not be empty and must not hold the delimiter, and versions
count from one. -/
def declare (name : String) (version : Int64) (definition : IndexDefinition) :
    Result IndexDeclaration :=
  if named : name = "" then .error (.config .emptyIndexName)
  else if delimited : indexDelimiter ∈ name.toList then
    .error (.config (.delimiterInIndexName name))
  else if numbered : 1 ≤ version then
    .ok ⟨name, version, definition, named, delimited, numbered⟩
  else .error (.config (.indexVersionBelowOne name version))

/-- Whether an index of a name and a version can be declared. -/
def admits (name : String) (version : Int64) : Bool :=
  decide (name ≠ "" ∧ indexDelimiter ∉ name.toList ∧ 1 ≤ version)

/-- The declaration of an index of such a name and version. -/
def ofAdmitted (name : String) (version : Int64) (definition : IndexDefinition)
    (h : admits name version = true) : IndexDeclaration :=
  have hparts : name ≠ "" ∧ indexDelimiter ∉ name.toList ∧ 1 ≤ version := of_decide_eq_true h
  ⟨name, version, definition, hparts.1, hparts.2.1, hparts.2.2⟩

/-- The name that an index of a name and a version is stored under. -/
def storedName (declaration : IndexDeclaration) : String :=
  declaration.name ++ String.singleton indexDelimiter ++ Integer.write declaration.version.toInt

/-- The short form of a declaration in messages. -/
def label (declaration : IndexDeclaration) : String :=
  declaration.name ++ ".v" ++ Integer.write declaration.version.toInt

end IndexDeclaration

/-- An index that a collection has, by the parts of its stored name. -/
structure ExistingIndex where
  /-- The database and the collection. -/
  space : String
  storedName : String
  version : Int64
  deriving DecidableEq

/-- Takes a stored name apart into the bare name and the rest. -/
def ExistingIndex.parse (space stored : String) : Result (String × ExistingIndex) :=
  match Text.pieces indexDelimiter stored with
  | [bare, number] =>
    match Integer.readInt64 number with
    | .ok version => .ok (bare, ⟨space, stored, version⟩)
    | .error _ => .error (.config (.storedIndexVersion stored space number))
  | _ => .error (.config (.storedIndexNameShape stored space))

end VersionedStore
