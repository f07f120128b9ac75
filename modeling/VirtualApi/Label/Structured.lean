import VirtualApi.Json.Record
import VirtualApi.Label.Basic

/-!
# Structured selectors

The form of a selector in objects: labels that have to be equal, and expressions with a named
operator. `LabelSelector.toSelector` turns it into requirements, the labels first, in key order.
-/

namespace VirtualApi

open Label

/-- One expression of a structured selector. -/
structure LabelExpression where
  key : String
  operator : String
  values : Option (List String)
deriving DecidableEq, Repr

/-- A structured selector. -/
structure LabelSelector where
  matchLabels : Option Labels
  matchExpressions : Option (List LabelExpression)
deriving DecidableEq, Repr

namespace LabelExpression

/-- The operators that an expression can name. -/
def operator? (name : String) : Option Operator :=
  [("In", Operator.isIn), ("NotIn", .notIn), ("Exists", .exists),
    ("DoesNotExist", .doesNotExist)].lookup name

/-- An expression as a requirement. -/
def toRequirement (e : LabelExpression) : Except SelectorError Requirement :=
  match operator? e.operator with
  | some operator => Requirement.make e.key operator (e.values.getD [])
  | none => .error (.unknownOperator e.operator)

/-- Read an expression from an object; absent texts are empty. -/
def ofJson? (value : Json) : Option LabelExpression :=
  match value with
  | .obj given => do
      let record : Json.Record := ⟨given⟩
      let key ← record.optional "key" Json.str?
      let operator ← record.optional "operator" Json.str?
      let values ← record.optional "values" Json.texts?
      pure ⟨key.getD "", operator.getD "", values⟩
  | _ => none

/-- An expression as an object. -/
def toJson (e : LabelExpression) : Json :=
  .object ([("key", .str e.key), ("operator", .str e.operator)] ++
    Json.field? "values" Json.texts e.values)

end LabelExpression

namespace LabelSelector

/-- A structured selector as a selector; the first part that fails decides the error. -/
def toSelector (s : LabelSelector) : Except SelectorError Selector := do
  let labels ← (s.matchLabels.getD []).mapM fun (k, v) => Requirement.make k .equals [v]
  let expressions ← (s.matchExpressions.getD []).mapM LabelExpression.toRequirement
  pure ⟨labels ++ expressions⟩

/-- Read a structured selector from an object. -/
def ofJson? (value : Json) : Option LabelSelector :=
  match value with
  | .obj given => do
      let record : Json.Record := ⟨given⟩
      let matchLabels ← record.optional "matchLabels" Json.textMap?
      let matchExpressions ←
        record.optional "matchExpressions" (Json.list? LabelExpression.ofJson?)
      pure ⟨matchLabels, matchExpressions⟩
  | _ => none

/-- A structured selector as an object. -/
def toJson (s : LabelSelector) : Json :=
  .object (Json.field? "matchLabels" Json.textMap s.matchLabels ++
    Json.field? "matchExpressions" (fun es => .arr (es.map LabelExpression.toJson))
      s.matchExpressions)

end LabelSelector

end VirtualApi
