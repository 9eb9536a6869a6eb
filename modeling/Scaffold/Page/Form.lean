import Scaffold.Page.Control
import Scaffold.Page.Declaration
import Scaffold.Text.Order

/-!
# Forms

The form of a new record and the form of a changed one. Both have a value, an initial value and a
control for every field and for every relationship that is chosen; they differ in where the
initial values come from and in what is shown of files that are stored already.
-/
namespace Scaffold

/-- The record that a form is for. -/
inductive FormPurpose where
  /-- A new record. -/
  | create
  /-- A record that is there, held by a variable. -/
  | edit (record : Text)
deriving DecidableEq, Repr

/-- The initial value of a key. -/
structure FormDefault where
  /-- The key. -/
  key : Text
  /-- The value without a record. -/
  blank : Text
  /-- The record whose value is taken, if it has one. -/
  record : Option Text
deriving DecidableEq, Repr

/-- The initial value in code. -/
def FormDefault.line (value : FormDefault) : Text :=
  match value.record with
  | none => value.key ++ ": " ++ value.blank ++ ","
  | some record =>
    value.key ++ ": " ++ record ++ '.' :: value.key ++ " ?? " ++ value.blank ++ ","

/-- A control with its key and the words shown for it. -/
structure FormInput where
  /-- The key. -/
  key : Text
  /-- The words shown. -/
  label : Text
  /-- What edits the value. -/
  control : Control
  /-- Lines behind the control. -/
  note : List Text
deriving DecidableEq, Repr

namespace FormInput

open Markup

/-- The input in code: the label, the control and the place of its error. -/
def lines (input : FormInput) : List Text :=
  let control := Text.unlines (input.control.lines input.key input.label ++ input.note)
  [opening "div" [classes "grid gap-2"]] ++
    Code.deeper [inline "Label" [.text "htmlFor" input.key] input.label] ++
    Text.indentLines Code.step control ++
    Code.deeper [empty "InputError" [.code "message" ("errors." ++ input.key)]] ++
    [closing "div"]

end FormInput

namespace Field

open Markup

/-- The value of a field that has none. -/
def blankValue (field : Field) : Text :=
  match field.kind, field.choice with
  | .mediaSingle, _ => "null"
  | .mediaMultiple, _ => "[]"
  | .tags, _ => "[]"
  | _, .multiple => "[]"
  | _, .single => "null"
  | .number, _ => "null"
  | .rating, _ => "null"
  | .slider, _ => "[0]"
  | .switch, _ => "false"
  | .dateRange, _ => Code.record ["start: null", "end: null"]
  | .datetimeRange, _ => Code.record ["start: null", "end: null"]
  | .color, _ => "'#000000'"
  | _, _ => "''"

/-- Small text. -/
def noteElement (content : Text) : Text :=
  inline "p" [classes "text-muted-foreground text-sm"] content

/-- What is stored already for a field with uploaded files. -/
def storedLines (field : Field) (record : Text) : List Text :=
  let value := record ++ '.' :: field.name
  if field.kind = .mediaSingle then
    if field.flags.showPreview then
      [Text.braced (value ++ " && " ++
        empty "img" [.code "src" (value ++ ".url"), .code "alt" (value ++ ".name"),
          classes "max-h-32 rounded object-cover"])]
    else
      [Text.braced (value ++ " && " ++
        noteElement ("Current: " ++ Text.braced (value ++ ".name")))]
  else
    Code.block ('\x7b' :: value ++ ".length > 0 && (")
      [noteElement ("Current: " ++
        Text.braced (value ++ ".map((media) => media.name).join(', ')"))]
      ")\x7d"

end Field

namespace Plan

/-- The initial value of a field. Stored files are no initial value. -/
def fieldDefault (purpose : FormPurpose) (field : Field) : FormDefault :=
  let record := match purpose with
    | .create => none
    | .edit record => if field.kind.isMedia then none else some record
  ⟨field.name, field.blankValue, record⟩

/-- The initial value of a relationship. -/
def relationDefault (purpose : FormPurpose) (relationship : Relationship) : FormDefault :=
  let record := match purpose with
    | .create => none
    | .edit record => some record
  ⟨relationship.foreignKey, "null", record⟩

/-- The initial values of a form. -/
def formDefaults (plan : Plan) (purpose : FormPurpose) : List FormDefault :=
  plan.fields.map (fieldDefault purpose) ++ plan.formRelations.map (relationDefault purpose)

/-- A form is for a record that is there. -/
def edits : FormPurpose → Bool
  | .create => false
  | .edit _ => true

/-- The initial values of a form in code. A changed record is sent as a new one where files are
sent, and names the request method that is meant. -/
def formDefaultLines (plan : Plan) (purpose : FormPurpose) : List Text :=
  (plan.formDefaults purpose).map FormDefault.line ++
    (if edits purpose && plan.hasMedia then ["_method: 'put',".toList] else [])

/-- The input of a field. -/
def fieldInput (purpose : FormPurpose) (field : Field) : FormInput :=
  let note := match purpose with
    | .create => []
    | .edit record => if field.kind.isMedia then field.storedLines record else []
  ⟨field.name, field.label, field.control, note⟩

/-- The input of a relationship. -/
def relationInput (plan : Plan) (relationship : Relationship) : FormInput :=
  ⟨relationship.foreignKey, relationship.label, plan.relationControl relationship, []⟩

/-- The inputs of a form. -/
def formInputs (plan : Plan) (purpose : FormPurpose) : List FormInput :=
  plan.fields.map (fieldInput purpose) ++ plan.formRelations.map plan.relationInput

/-- The inputs of a form in code. -/
def formInputLines (plan : Plan) (purpose : FormPurpose) : List Text :=
  (plan.formInputs purpose).flatMap FormInput.lines

/-- The request method that changes a record. -/
def submitMethod (plan : Plan) : Text := if plan.hasMedia then "post" else "put"

/-- The call that submits a form. -/
def submitCall (plan : Plan) (purpose : FormPurpose) : Text :=
  let options : Text := if plan.hasMedia then ", " ++ Code.record ["forceFormData: true"] else []
  match purpose with
  | .create => "post('/" ++ plan.names.route ++ "'" ++ options ++ ");"
  | .edit record =>
    plan.submitMethod ++ "(`/" ++ plan.names.route ++ "/$" ++ Text.braced (record ++ ".id") ++ "`" ++
      options ++ ");"

/-- The names imported for the state of a form. -/
def stateImports (plan : Plan) : Text :=
  if plan.dependencies.isEmpty then "type FormEventHandler"
  else "type FormEventHandler, useEffect, useState"

/-- The parts of a drop-down list, which are imported one by one. -/
def selectParts : List Text :=
  ["Select", "SelectContent", "SelectItem", "SelectTrigger", "SelectValue"]

/-- The names that are imported for a component. -/
def componentNames : Component → List Text
  | .select => selectParts
  | .radioGroup => ["RadioGroup", "RadioGroupItem"]
  | component => [component.name]

/-- The components that a form uses. -/
def formComponents (plan : Plan) : List Component :=
  plan.fields.map (·.component) ++ plan.formRelations.map fun _ => .select

/-- The import of names from a module. -/
def importLine (names : List Text) (source : Text) : Text :=
  "import " ++ Code.record names ++ " from '" ++ source ++ "';"

/-- The imports of components, one line for every module. -/
def formImportLines (plan : Plan) : List Text :=
  (Text.sortedDistinct (plan.formComponents.map (·.source))).map fun source =>
    importLine
      (Text.sortedDistinct
        ((plan.formComponents.filter (·.source == source)).flatMap componentNames))
      source

/-- The types of the record lists that a page receives, in code. -/
def recordPropLines (plan : Plan) : List Text :=
  plan.recordProps.map fun prop => prop ++ ": " ++ recordOption ++ "[];"

/-- The record lists that a page receives. Behind other names each has a comma in front. -/
def recordPropNames (plan : Plan) (first : Bool) : Text :=
  if first then Text.commaList plan.recordProps
  else Text.concat (plan.recordProps.map fun prop => ", " ++ prop)

end Plan

end Scaffold
