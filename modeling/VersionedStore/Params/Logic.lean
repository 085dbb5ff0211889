import VersionedStore.Params.Compile

/-!
# Logic over compiled filters

A `Logic` tree joins the fields of a compiled filter by "and" and "or".  A leaf stands for the
condition on one field; leaves of fields without a condition are left out, and so are groups in
which nothing is left.
-/

set_option autoImplicit false

namespace VersionedStore.Params

/-- A tree of conditions. -/
inductive Logic where
  | leaf (field : String)
  | all (children : List Logic)
  | any (children : List Logic)

namespace Logic

mutual

/-- Finds a group without children anywhere in a tree. -/
def validate : Logic → Result Unit
  | .leaf _ => .ok ()
  | .all children =>
    if children.isEmpty then .error (.config .emptyGroup) else validateAll children
  | .any children =>
    if children.isEmpty then .error (.config .emptyGroup) else validateAll children

/-- Finds a group without children in one of some trees. -/
def validateAll : List Logic → Result Unit
  | [] => .ok ()
  | child :: rest =>
    match validate child with
    | .error error => .error error
    | .ok () => validateAll rest

end

/-- The group of some filters, if there are any. -/
def group? (operator : String) (filters : List Value) : Option Document :=
  if filters.isEmpty then none else some [(operator, .array filters)]

mutual

/-- The filter of a tree over a flat filter, unless nothing is left of it. -/
def fold (flat : Document) : Logic → Option Document
  | .leaf field => (Document.get? flat field).map fun condition => [(field, condition)]
  | .all children => group? opAll (foldAll flat children)
  | .any children => group? opAny (foldAll flat children)

/-- The filters of those trees of which something is left. -/
def foldAll (flat : Document) : List Logic → List Value
  | [] => []
  | child :: rest =>
    match fold flat child with
    | some filter => .document filter :: foldAll flat rest
    | none => foldAll flat rest

end

end Logic

/-- Compiles parameters and joins the conditions by a tree; only fields that a leaf of the tree
names are in the filter. -/
def compileWith (logic : Logic) (input : Document) (rules : RuleSet) (strict : Bool) :
    Result Compiled := do
  logic.validate
  let compiled ← compile input rules strict
  pure { compiled with filter := compiled.filter.bind logic.fold }

end VersionedStore.Params
