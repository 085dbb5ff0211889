import VersionedStore.Error
import VersionedStore.NameMap
import VersionedStore.Params.Convert
import VersionedStore.Text.Quoted

/-!
# Rules for parameters

Parameters come from outside as a flat document.  A `Rule` says what the value under a key
means: a field rule makes it the operand of an operator on one or more fields, and a dynamic
rule makes a whole filter of it.  A `RuleSet` holds one rule for each key.
-/

set_option autoImplicit false

namespace VersionedStore

/-- Makes a filter of the text of a parameter, or gives the reason why not. -/
abbrev Expansion := String → Except String Document

/-- A rule that makes a parameter the operand of an operator on fields. -/
structure FieldRule where
  targets : List String
  operator : String
  convert : Option Convert.Converter := none

/-- What the value under a key means. -/
inductive Rule where
  | field (rule : FieldRule)
  | dynamic (expand : Expansion)

/-- The rules by key. -/
abbrev RuleSet := NameMap Rule

namespace Rule

/-- The form of a rule in logs. -/
def logText : Rule → String
  | .field rule =>
    "FieldSpec \x7b targets: [" ++ Text.join ", " (rule.targets.map Text.quote) ++
      "], operator: " ++ Text.quote rule.operator ++ ", convert: " ++
      (if rule.convert.isSome then "true" else "false") ++ " \x7d"
  | .dynamic _ => "DynamicSpec \x7b .. \x7d"

/-- What is wrong with the rule for a key: a field rule needs an operator and fields with
names. -/
def fault? (key : String) : Rule → Option ConfigFault
  | .field rule =>
    if rule.targets.isEmpty || rule.targets.contains "" then some (.ruleWithoutTarget key)
    else if rule.operator.isEmpty then some (.ruleWithoutOperator key)
    else none
  | .dynamic _ => none

end Rule

/-- Finds the first rule, in the order of keys, with which something is wrong. -/
def RuleSet.validate (rules : RuleSet) : Result Unit :=
  match rules.entries.findSome? fun entry => entry.2.fault? entry.1 with
  | some fault => .error (.config fault)
  | none => .ok ()

end VersionedStore
