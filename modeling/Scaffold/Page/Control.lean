import Scaffold.Code.Markup
import Scaffold.Page.Records

/-!
# Controls

What edits one value of a form. A control is chosen from the kind, the options and the flags of a
field; relationships are chosen from a drop-down list. A chosen parent clears the values that
depend on it.
-/
namespace Scaffold

/-- A control of a form. -/
inductive Control where
  /-- A drop-down list whose choice clears the values of other keys. -/
  | select (choices : ChoiceList) (clears : List Text)
  /-- A drop-down list with several choices. -/
  | multiSelect (choices : ChoiceList)
  /-- Radio buttons. -/
  | radioGroup (choices : ChoiceList)
  /-- Check boxes. -/
  | checkboxes (choices : ChoiceList)
  /-- A text area. -/
  | textarea
  /-- An editor of formatted text. -/
  | richText
  /-- Stars. -/
  | rating
  /-- A slider. -/
  | slider
  /-- A switch. -/
  | switch
  /-- An input of free words. -/
  | tags
  /-- Two inputs of a type, for a start and an end. -/
  | range (type : Text)
  /-- An input of numbers. -/
  | number
  /-- An input of amounts of money. -/
  | amount
  /-- An input of one file, which may have to be an image. -/
  | file (imageOnly : Bool)
  /-- An input of several files. -/
  | files
  /-- An input of a type. -/
  | input (type : Text)
deriving DecidableEq, Repr

namespace Control

open Markup

/-- The list that a control draws its choices from. -/
def choices? : Control → Option ChoiceList
  | select choices _ => some choices
  | multiSelect choices => some choices
  | radioGroup choices => some choices
  | checkboxes choices => some choices
  | _ => none

/-- The control edits a list of choices. -/
def editsList : Control → Bool
  | multiSelect _ => true
  | checkboxes _ => true
  | tags => true
  | _ => false

/-- The value of a key of the form. -/
def dataOf (key : Text) : Text := "data." ++ key

/-- Sets the value of a key of the form. -/
def setData (key value : Text) : Text := "setData('" ++ key ++ "', " ++ value ++ ")"

/-- A function of one parameter. -/
def function (parameter body : Text) : Text := '(' :: parameter ++ ") => " ++ body

/-- Sets a key to what the control hands over. -/
def setValue (key : Text) : Text := function "value" (setData key "value")

/-- Sets a key to the number of a chosen option. -/
def setNumber (key : Text) : Text := function "value" (setData key "Number(value)")

/-- Sets a key to a part of an event. -/
def setTarget (key part : Text) : Text := function "e" (setData key ("e.target." ++ part))

/-- The values of a form after an option is chosen. -/
def chosenMembers (key : Text) (clears : List Text) : List Text :=
  "...previous" :: (key ++ ": Number(value)") :: clears.map (· ++ ": null")

/-- Sets a key to the number of a chosen option and clears other keys. -/
def setAndClear (key : Text) (clears : List Text) : Text :=
  if clears.isEmpty then setNumber key
  else
    function "value" <|
      "setData(" ++ function "previous" ('(' :: Code.record (chosenMembers key clears) ++ ")") ++ ")"

/-- The chosen option as text. -/
def chosen (key : Text) : Text :=
  dataOf key ++ " === null ? '' : String(" ++ dataOf key ++ ")"

/-- A drop-down list. -/
def selectLines (key label : Text) (choices : ChoiceList) (clears : List Text) : List Text :=
  element "Select"
    [.code "value" (chosen key), .code "onValueChange" (setAndClear key clears)] <|
    element "SelectTrigger" [.text "id" key]
        [empty "SelectValue" [.text "placeholder" ("Select " ++ label)]] ++
      selectItems choices.code

/-- The identifier of the control of one option. -/
def optionId (key : Text) : Text := '\x60' :: key ++ "-$\x7boption.value\x7d`"

/-- The label of the control of one option. -/
def optionLabel (key : Text) : Text :=
  inline "Label" [.code "htmlFor" (optionId key)] (Text.braced "option.label")

/-- A control and a label for every option. -/
def optionLines (key : Text) (choices : ChoiceList) (control : List Text) : List Text :=
  each choices.code "option" <|
    element "div" [.code "key" "option.value", classes "flex items-center gap-2"]
      (control ++ [optionLabel key])

/-- Radio buttons. -/
def radioLines (key : Text) (choices : ChoiceList) : List Text :=
  element "RadioGroup" [.code "value" (chosen key), .code "onValueChange" (setNumber key)] <|
    optionLines key choices
      [empty "RadioGroupItem"
        [.code "id" (optionId key), .code "value" "String(option.value)"]]

/-- Adds an option to a list or takes it out. -/
def toggleOption (key : Text) : Text :=
  setData key ("checked ? [..." ++ dataOf key ++ ", option.value] : " ++ dataOf key ++
    ".filter((value) => value !== option.value)")

/-- One check box. -/
def checkboxLines (key : Text) : List Text :=
  Code.block "<Checkbox"
    (("id=" ++ Text.braced (optionId key)) ::
      ("checked=" ++ Text.braced (dataOf key ++ ".includes(option.value)")) ::
      Code.block "onCheckedChange=\x7b(checked) =>" [toggleOption key] ['\x7d'])
    "/>"

/-- Check boxes. -/
def checkboxGroupLines (key : Text) (choices : ChoiceList) : List Text :=
  element "div" [classes "flex flex-wrap gap-4"] (optionLines key choices (checkboxLines key))

/-- An input for one end of a range. -/
def rangeInput (key type bound : Text) (identified : Bool) : Text :=
  empty "Input" <|
    (if identified then [.text "id" key] else []) ++
    [.text "type" type, .code "value" (dataOf key ++ '.' :: bound ++ " ?? ''"),
      .code "onChange" (function "e" (setData key
        (Code.record ["..." ++ dataOf key, bound ++ ": e.target.value || null"])))]

/-- Two inputs for a start and an end. -/
def rangeLines (key type : Text) : List Text :=
  element "div" [classes "flex items-center gap-2"]
    [rangeInput key type "start" true, inline "span" [] "-", rangeInput key type "end" false]

/-- An empty element that shows the value of a key. -/
def valueElement (tag key : Text) (attributes : List Attribute) : Text :=
  empty tag (.text "id" key :: .code "value" (dataOf key) :: attributes)

/-- A control in code, for a key and the words shown for it. -/
def lines (key label : Text) : Control → List Text
  | select choices clears => selectLines key label choices clears
  | multiSelect choices =>
    [empty "MultiSelect" [.text "id" key, .code "options" choices.code,
      .code "value" (dataOf key), .code "onChange" (setValue key)]]
  | radioGroup choices => radioLines key choices
  | checkboxes choices => checkboxGroupLines key choices
  | textarea => [valueElement "Textarea" key [.code "onChange" (setTarget key "value")]]
  | richText => [valueElement "RichTextEditor" key [.code "onChange" (setValue key)]]
  | rating =>
    [empty "Rating" [.text "id" key, .code "value" (dataOf key ++ " ?? 0"),
      .code "onChange" (setValue key)]]
  | slider =>
    [valueElement "Slider" key [.code "min" "0", .code "max" "100", .code "step" "1",
      .code "onValueChange" (setValue key)]]
  | switch =>
    [empty "Switch" [.text "id" key, .code "checked" (dataOf key),
      .code "onCheckedChange" (function "checked" (setData key "checked === true"))]]
  | tags => [valueElement "TagInput" key [.code "onChange" (setValue key)]]
  | range type => rangeLines key type
  | number =>
    [empty "Input" [.text "id" key, .text "type" "number", .code "value" (dataOf key ++ " ?? ''"),
      .code "onChange" (setTarget key "value === '' ? null : Number(e.target.value)")]]
  | amount =>
    [empty "Input" [.text "id" key, .text "type" "number", .text "step" "0.01", .text "min" "0",
      .code "value" (dataOf key), .code "onChange" (setTarget key "value")]]
  | file imageOnly =>
    [empty "Input" <|
      [.text "id" key, .text "type" "file"] ++
      (if imageOnly then [.text "accept" "image/*"] else []) ++
      [.code "onChange" (setTarget key "files?.[0] ?? null")]]
  | files =>
    [empty "Input" [.text "id" key, .text "type" "file", .flag "multiple",
      .code "onChange" (function "e" (setData key "Array.from(e.target.files ?? [])"))]]
  | input type =>
    [empty "Input" [.text "id" key, .text "type" type, .code "value" (dataOf key),
      .code "onChange" (setTarget key "value")]]

end Control

namespace Field

/-- The component that edits a field; a select with several choices has one of its own. -/
def component (field : Field) : Component :=
  if field.kind = .select && field.isMultiple then .multiSelect else field.facts.component

/-- The control of a field that is edited by a plain input. -/
def inputControl (field : Field) : Control :=
  let type : Text := field.facts.inputType.getD "text"
  match field.kind with
  | .dateRange => .range type
  | .datetimeRange => .range type
  | .number => .number
  | .currency => .amount
  | .mediaSingle => .file field.flags.showPreview
  | .mediaMultiple => .files
  | _ => .input type

/-- The control of a field. -/
def control (field : Field) : Control :=
  match field.component with
  | .select => .select field.choiceList []
  | .multiSelect => .multiSelect field.choiceList
  | .radioGroup => .radioGroup field.choiceList
  | .checkbox => .checkboxes field.choiceList
  | .textarea => .textarea
  | .richTextEditor => .richText
  | .rating => .rating
  | .slider => .slider
  | .switch => .switch
  | .tagInput => .tags
  | .input => field.inputControl

end Field

namespace Plan

/-- The list that a relationship is chosen from: what is fetched for the chosen parent, or the
record list of the page. -/
def relationChoices (plan : Plan) (relationship : Relationship) : ChoiceList :=
  ⟨((plan.dependencyOf? relationship.name).map (·.cascade.state)).getD
      (Code.optionsName relationship.name),
    some (plan.shownField relationship)⟩

/-- The key columns that the choice of a relationship clears. -/
def clearedKeys (plan : Plan) (relationship : Relationship) : List Text :=
  (plan.dependencies.filter (·.parent.name == relationship.name)).map (·.child.foreignKey)

/-- The control of a relationship. -/
def relationControl (plan : Plan) (relationship : Relationship) : Control :=
  .select (plan.relationChoices relationship) (plan.clearedKeys relationship)

end Plan

end Scaffold
