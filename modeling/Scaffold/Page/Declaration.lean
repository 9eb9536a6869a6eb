import Scaffold.Code.Layout
import Scaffold.Page.Records

/-!
# Declarations of the type module

The module that all pages of an entity import from: helper types, the attributes of a record, the
values of the form and of the filters, and the labels of fixed options.
-/
namespace Scaffold

/-- The type of a record in a record list. -/
def recordOption : Text := "RecordOption"

/-- The function that gives the label of a listed record. -/
def recordLabel : Text := "recordLabel"

/-- A helper that is declared where something needs it. -/
inductive TypeHelper where
  /-- The type of listed records. -/
  | recordOption
  /-- The type of fixed options. -/
  | staticOption
  /-- The type of values with a start and an end. -/
  | dateRange
  /-- The type of uploaded files. -/
  | mediaItem
  /-- The function that gives the label of a listed record. -/
  | recordLabel
deriving DecidableEq, Repr

namespace TypeHelper

/-- The name that a helper declares. -/
def name : TypeHelper → Text
  | recordOption => Scaffold.recordOption
  | staticOption => "StaticOption"
  | dateRange => "DateRangeValue"
  | mediaItem => "MediaItem"
  | recordLabel => Scaffold.recordLabel

/-- The declaration of an interface. -/
def interface (name : Text) (members : List Text) : List Text :=
  Code.braces ("export interface " ++ name) members

/-- The declaration of a helper. -/
def lines (helper : TypeHelper) : List Text :=
  match helper with
  | recordOption => interface helper.name ["id: number;", "[key: string]: unknown;"]
  | staticOption => interface helper.name ["value: number;", "label: string;"]
  | dateRange => interface helper.name ["start: string | null;", "end: string | null;"]
  | mediaItem => interface helper.name ["id: number;", "name: string;", "url: string;"]
  | recordLabel =>
    ("export const " ++ helper.name ++ " = (options: " ++ Scaffold.recordOption ++
      "[], id: number | null | undefined, field: string): string =>") ::
    Code.deeper ["String(options.find((option) => option.id === id)?.[field] ?? '');"]

end TypeHelper

/-- An attribute of a record as the pages receive it. -/
inductive RecordAttribute where
  /-- A value. -/
  | value (name : Text) (type : ValueType)
  /-- A related record with some of its fields. -/
  | related (name : Text) (fields : List Text)
deriving DecidableEq, Repr

namespace RecordAttribute

/-- The name of an attribute. -/
def name : RecordAttribute → Text
  | value name _ => name
  | related name _ => name

/-- The attribute in code. -/
def line : RecordAttribute → Text
  | value name type => name ++ ": " ++ type.text ++ ";"
  | related name fields =>
    name ++ "?: \x7b id: number; " ++
      Text.joinWith "; " (fields.map fun field => field ++ ": string | null") ++ " \x7d | null;"

end RecordAttribute

/-- A value of the form. -/
structure FormAttribute where
  /-- The key of the value. -/
  key : Text
  /-- Its type. -/
  type : ValueType
deriving DecidableEq, Repr

/-- The value of a form in code. -/
def FormAttribute.line (value : FormAttribute) : Text :=
  value.key ++ ": " ++ value.type.text ++ ";"

namespace Field

/-- The type of a field as the pages receive it, for a value that is there. -/
def presentType (field : Field) : ValueType :=
  match field.choice with
  | .multiple => .list (if field.kind = .tags then "string" else "number")
  | .single => .plain "number"
  | .none => field.facts.type

/-- The type of a field as the pages receive it. -/
def recordType (field : Field) : ValueType :=
  { field.presentType with orNull := field.presentType.orNull || field.nullable }

/-- The type of a field without choices while it is edited. -/
def plainFormType (field : Field) : ValueType :=
  match field.kind with
  | .number => .nullable "number"
  | .rating => .nullable "number"
  | .slider => .list "number"
  | .switch => .plain "boolean"
  | .dateRange => .plain "DateRangeValue"
  | .datetimeRange => .plain "DateRangeValue"
  | _ => .plain "string"

/-- The type of a field while it is edited. -/
def formType (field : Field) : ValueType :=
  match field.kind, field.choice with
  | .mediaSingle, _ => .nullable "File"
  | .mediaMultiple, _ => .list "File"
  | .tags, _ => .list "string"
  | _, .multiple => .list "number"
  | _, .single => .nullable "number"
  | _, .none => field.plainFormType

/-- A fixed option in code: the stored position and the label. -/
def optionLine (value : Nat) (label : Text) : Text :=
  "\x7b value: " ++ Text.ofNat value ++ ", label: " ++ Text.quote label ++ " \x7d,"

/-- The list of the fixed options of a field, in code. -/
def optionListLines (field : Field) : List Text :=
  Code.block ("export const " ++ Code.optionsName field.name ++ ": StaticOption[] = [")
    (field.indexedLabels.map fun (value, label) => optionLine value label) "];"

/-- The function that gives the label of a stored position, in code. -/
def labelFunctionLines (field : Field) : List Text :=
  ("export const " ++ Code.labelFunction field.name ++
      " = (value: number | null | undefined): string =>") ::
    Code.deeper [Code.optionsName field.name ++
      ".find((option) => option.value === value)?.label ?? '';"]

/-- The option list and the labels of a field with fixed options, in code. -/
def optionLines (field : Field) : List Text :=
  field.optionListLines ++ [] :: field.labelFunctionLines

end Field

namespace Plan

/-- The helper, if a condition holds. -/
def helperIf (needed : Bool) (helper : TypeHelper) : List TypeHelper :=
  if needed then [helper] else []

/-- The helpers that something of the plan needs. -/
def typeHelpers (plan : Plan) : List TypeHelper :=
  helperIf (!plan.recordLists.isEmpty) .recordOption ++
    helperIf (!plan.staticFields.isEmpty) .staticOption ++
    helperIf (plan.fields.any (·.kind.isRange)) .dateRange ++
    helperIf plan.hasMedia .mediaItem ++
    helperIf (!plan.dynamicFields.isEmpty) .recordLabel

/-- The helpers in code. -/
def helperLines (plan : Plan) : List Text := Code.spaced (plan.typeHelpers.map TypeHelper.lines)

/-- The projected relations: neighbouring projections of one relation belong together. -/
def projectionRuns : List Projection → List (Text × List Text)
  | [] => []
  | projection :: rest =>
    match projectionRuns rest with
    | [] => [(projection.relation, [projection.field])]
    | (relation, fields) :: runs =>
      if relation = projection.relation then (relation, projection.field :: fields) :: runs
      else (projection.relation, [projection.field]) :: (relation, fields) :: runs

/-- The attributes of a record. -/
def recordAttributes (plan : Plan) : List RecordAttribute :=
  (plan.fields.map fun field => .value field.name field.recordType) ++
    (plan.foreignKeys.map fun relationship =>
      .value relationship.foreignKey (.nullable "number")) ++
    (projectionRuns plan.projections).map fun (relation, fields) =>
      .related (Text.snakeCase relation) (firstOccurrences fields)

/-- The attributes of a record in code. -/
def recordAttributeLines (plan : Plan) : List Text :=
  plan.recordAttributes.map RecordAttribute.line

/-- The values of the form. -/
def formAttributes (plan : Plan) : List FormAttribute :=
  (plan.fields.map fun field => ⟨field.name, field.formType⟩) ++
    plan.formRelations.map fun relationship => ⟨relationship.foreignKey, .nullable "number"⟩

/-- The values of the form in code, with the request method where files are sent. -/
def formAttributeLines (plan : Plan) : List Text :=
  plan.formAttributes.map FormAttribute.line ++
    (if plan.hasMedia then ["_method?: 'put';".toList] else [])

/-- The values of the filters in code. -/
def filterAttributeLines (plan : Plan) : List Text :=
  plan.filters.map fun filter => filter.key ++ "?: string;"

/-- The option lists and labels of the fields, in code. -/
def optionLines (plan : Plan) : List Text :=
  plan.staticFields.flatMap fun field => [] :: field.optionLines

/-- The names that the type module declares. -/
def declaredNames (plan : Plan) : List Text :=
  plan.typeHelpers.map TypeHelper.name ++
    [plan.names.model, plan.names.model ++ "FormData", plan.names.model ++ "Filters", "Paginated"] ++
    plan.staticFields.flatMap fun field =>
      [Code.optionsName field.name, Code.labelFunction field.name]

end Plan

end Scaffold
