import Scaffold.Backend.ClassName
import Scaffold.Code.Layout
import Scaffold.Text.Quoted

/-!
# Requests

The rules by which a request is validated. A new record and a changed one are validated alike,
except that a value which must be unique may stay what it is when a record is changed.
-/
namespace Scaffold

/-- A rule of one key in a request that changes a record. -/
inductive UpdateRule where
  /-- A rule as it is written. -/
  | written (rule : Text)
  /-- The value occurs in no other record of a table. -/
  | uniqueIn (table column : Text)
deriving DecidableEq, Repr

namespace UpdateRule

/-- What the rule of a unique value begins with. -/
def uniqueMark : Text := "unique:"

/-- The rule of one segment, for the key that it validates. -/
def ofSegment (key segment : Text) : UpdateRule :=
  match Text.afterStart? (Text.trim segment) uniqueMark with
  | none => written segment
  | some target =>
    match Text.splitFirst? ',' target with
    | some (table, column) => uniqueIn table column
    | none => uniqueIn target key

/-- The segments of a rule. -/
def segments (rule : Text) : List Text := Text.splitOn '|' rule

/-- A rule asks for a unique value. -/
def asksUnique (rule : Text) : Bool :=
  (segments rule).any fun segment => Text.startsWith (Text.trim segment) uniqueMark

/-- A rule in code, where the edited record is found under a name in the route. -/
def code (record : Text) : UpdateRule → Text
  | written rule => Text.quote rule
  | uniqueIn table column =>
    "Rule::unique(" ++ Text.quote table ++ ", " ++ Text.quote column ++
      ")->ignore($this->route(" ++ Text.quote record ++ "))"

end UpdateRule

namespace ValidationRule

/-- The rules of a request that changes a record. -/
def forUpdate (rule : ValidationRule) : List UpdateRule :=
  (UpdateRule.segments rule.rule).map (UpdateRule.ofSegment rule.key)

/-- The rules of a key in a request that creates a record, in code. -/
def storeLine (rule : ValidationRule) : Text :=
  Text.quote rule.key ++ " => " ++ Text.quote rule.rule ++ ","

/-- The rules of a key in a request that changes a record, in code. -/
def updateLine (record : Text) (rule : ValidationRule) : Text :=
  Text.quote rule.key ++ " => " ++
    (if UpdateRule.asksUnique rule.rule then Code.list (rule.forUpdate.map (UpdateRule.code record))
      else Text.quote rule.rule) ++ ","

end ValidationRule

namespace Plan

/-- The imports of a request, which may have rules that are no text. -/
def requestImports (plan : Plan) (withUnique : Bool) : List Text :=
  ClassName.importLines plan.requestNamespace <|
    "Illuminate\\Foundation\\Http\\FormRequest" ::
      (if withUnique && plan.rules.any (UpdateRule.asksUnique ·.rule) then
        ["Illuminate\\Validation\\Rule"] else [])

/-- The rules for a new record. -/
def storeRuleLines (plan : Plan) : List Text := plan.rules.map ValidationRule.storeLine

/-- The rules for a changed record. -/
def updateRuleLines (plan : Plan) : List Text :=
  plan.rules.map (ValidationRule.updateLine plan.names.record)

end Plan

end Scaffold
