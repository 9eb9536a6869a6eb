import Scaffold.Page.Form
import Scaffold.Page.View
import Scaffold.Proofs.Backend.Unmarked

/-!
# Controls and views without percent signs

What edits a value of a form and what shows a value of a record hold no percent sign if the field,
the relationship or the projection holds none: each adds code without any to its words.
-/
namespace Scaffold

open Text

/-- No percent sign stands in the choices of a control. -/
structure ChoiceList.Unmarked (choices : ChoiceList) : Prop where
  /-- The name of the list. -/
  list : Text.Unmarked choices.list
  /-- The field that shows a record. -/
  shown : ∀ shown ∈ choices.shown, Text.Unmarked shown

/-- The expression of choices holds none if they do not. -/
theorem ChoiceList.Unmarked.code {choices : ChoiceList} (own : choices.Unmarked) :
    Text.Unmarked choices.code := by
  unfold ChoiceList.code
  split
  · exact own.list
  · rename_i shown found
    simp (disch := exact Spelled.of rfl rfl)
      [own.list, own.shown shown found, -String.reduceToList]

/-- The choices of a field hold none if it does not. -/
theorem Field.Unmarked.choiceList {field : Field} (own : field.Unmarked) :
    field.choiceList.Unmarked := by
  refine ⟨Code.unmarked_optionsName, fun shown found => ?_⟩
  obtain ⟨source, known, rfl⟩ := Option.map_eq_some_iff.mp found
  exact (own.source source known).2

namespace Control

/-- No percent sign stands in a control. -/
def Unmarked : Control → Prop
  | select choices clears => choices.Unmarked ∧ AllUnmarked clears
  | multiSelect choices => choices.Unmarked
  | radioGroup choices => choices.Unmarked
  | checkboxes choices => choices.Unmarked
  | range type => Text.Unmarked type
  | input type => Text.Unmarked type
  | _ => True

variable {key label value parameter body part : Text} {choices : ChoiceList} {clears : List Text}

/-- The value of a key. -/
@[simp]
theorem unmarked_dataOf : Text.Unmarked (dataOf key) ↔ Text.Unmarked key := by
  unfold dataOf
  simp (disch := exact Spelled.of rfl rfl) [-String.reduceToList]

/-- Setting the value of a key. -/
@[simp]
theorem unmarked_setData : Text.Unmarked (setData key value) ↔
    Text.Unmarked key ∧ Text.Unmarked value := by
  unfold setData
  simp (disch := exact Spelled.of rfl rfl) [-String.reduceToList]

/-- A function of one parameter. -/
@[simp]
theorem unmarked_function : Text.Unmarked (function parameter body) ↔
    Text.Unmarked parameter ∧ Text.Unmarked body := by
  unfold function
  simp (disch := exact Spelled.of rfl rfl) [-String.reduceToList]

/-- Setting a key to what a control hands over. -/
@[simp]
theorem unmarked_setValue : Text.Unmarked (setValue key) ↔ Text.Unmarked key := by
  unfold setValue
  simp (disch := exact Spelled.of rfl rfl) [-String.reduceToList]

/-- Setting a key to a number. -/
@[simp]
theorem unmarked_setNumber : Text.Unmarked (setNumber key) ↔ Text.Unmarked key := by
  unfold setNumber
  simp (disch := exact Spelled.of rfl rfl) [-String.reduceToList]

/-- Setting a key to a part of an event. -/
@[simp]
theorem unmarked_setTarget : Text.Unmarked (setTarget key part) ↔
    Text.Unmarked key ∧ Text.Unmarked part := by
  unfold setTarget
  simp (disch := exact Spelled.of rfl rfl) [-String.reduceToList]

/-- The chosen option. -/
@[simp]
theorem unmarked_chosen : Text.Unmarked (chosen key) ↔ Text.Unmarked key := by
  unfold chosen
  simp (disch := exact Spelled.of rfl rfl) [-String.reduceToList]

/-- Setting a key and clearing others. -/
theorem unmarked_setAndClear (own : Text.Unmarked key) (others : AllUnmarked clears) :
    Text.Unmarked (setAndClear key clears) := by
  unfold setAndClear
  simp (disch := exact Spelled.of rfl rfl) [chosenMembers, own, -String.reduceToList]
  exact fun _ => others

/-- The control of one option. -/
@[simp]
theorem unmarked_optionId : Text.Unmarked (optionId key) ↔ Text.Unmarked key := by
  unfold optionId
  simp (disch := exact Spelled.of rfl rfl) [-String.reduceToList]

/-- A control and a label for every option. -/
theorem unmarked_optionLines {control : List Text} (own : Text.Unmarked key)
    (list : choices.Unmarked) (inner : AllUnmarked control) :
    AllUnmarked (optionLines key choices control) := by
  unfold optionLines optionLabel
  simp (disch := exact Spelled.of rfl rfl) [own, list.code, inner, -String.reduceToList]

/-- One check box. -/
theorem unmarked_checkboxLines (own : Text.Unmarked key) : AllUnmarked (checkboxLines key) := by
  unfold checkboxLines toggleOption
  simp (disch := exact Spelled.of rfl rfl) [own, -String.reduceToList]

/-- An input for one end of a range. -/
theorem unmarked_rangeInput {type bound : Text} (own : Text.Unmarked key)
    (kind : Text.Unmarked type) (side : Text.Unmarked bound) (identified : Bool) :
    Text.Unmarked (rangeInput key type bound identified) := by
  unfold rangeInput
  simp (disch := exact Spelled.of rfl rfl) [own, kind, side, -String.reduceToList]

/-- A control in code. -/
theorem Unmarked.lines {control : Control} (clean : control.Unmarked) (own : Text.Unmarked key)
    (words : Text.Unmarked label) : AllUnmarked (control.lines key label) := by
  cases control with
  | select choices clears =>
    have set := unmarked_setAndClear own clean.2
    simp only [Control.lines, selectLines]
    simp (disch := exact Spelled.of rfl rfl)
      [own, words, clean.1.code, set, -String.reduceToList]
  | multiSelect choices =>
    have list : Text.Unmarked choices.code := ChoiceList.Unmarked.code clean
    simp only [Control.lines]
    simp (disch := exact Spelled.of rfl rfl) [own, list, -String.reduceToList]
  | radioGroup choices =>
    have item : AllUnmarked [Markup.empty "RadioGroupItem"
        [.code "id" (optionId key), .code "value" "String(option.value)"]] := by
      simp (disch := exact Spelled.of rfl rfl) [own, -String.reduceToList]
    have options := unmarked_optionLines own clean item
    simp only [Control.lines, radioLines]
    simp (disch := exact Spelled.of rfl rfl) [own, options, -String.reduceToList]
  | checkboxes choices =>
    have options := unmarked_optionLines own clean (unmarked_checkboxLines own)
    simp only [Control.lines, checkboxGroupLines]
    simp (disch := exact Spelled.of rfl rfl) [options, -String.reduceToList]
  | range type =>
    have sides : Text.Unmarked (rangeInput key type "start" true) ∧
        Text.Unmarked (rangeInput key type "end" false) :=
      ⟨unmarked_rangeInput own clean (unmarked_literal (.of rfl rfl)) _,
        unmarked_rangeInput own clean (unmarked_literal (.of rfl rfl)) _⟩
    simp only [Control.lines, rangeLines]
    simp (disch := exact Spelled.of rfl rfl) [sides, -String.reduceToList]
  | input type =>
    have type : Text.Unmarked type := clean
    simp only [Control.lines]
    simp (disch := exact Spelled.of rfl rfl) [own, type, -String.reduceToList]
  | _ =>
    simp only [Control.lines, valueElement]
    simp (disch := exact Spelled.of rfl rfl) [own, -String.reduceToList]

end Control

namespace Field

variable {field : Field} {record : Text}

/-- The words shown for a field. -/
theorem Unmarked.label (own : field.Unmarked) : Text.Unmarked field.label := own.name.labelFor

/-- The control of a field. -/
theorem Unmarked.control (own : field.Unmarked) : field.control.Unmarked := by
  have list := own.choiceList
  have types : ∀ kind : FieldKind, Text.Unmarked (kind.facts.inputType.getD "text") := by
    intro kind
    cases kind <;> exact unmarked_literal (.of rfl rfl)
  have type : Text.Unmarked (field.facts.inputType.getD "text") := types field.kind
  unfold Field.control inputControl
  split
  · exact ⟨list, allUnmarked_nil⟩
  all_goals first | exact list | trivial | skip
  split <;> first | exact type | trivial

/-- What is stored already for a field with uploaded files. -/
theorem Unmarked.storedLines (own : field.Unmarked) (clean : Text.Unmarked record) :
    AllUnmarked (field.storedLines record) := by
  unfold Field.storedLines noteElement
  simp (disch := exact Spelled.of rfl rfl) [own.name, clean, -String.reduceToList]

/-- The value of a field that has none. -/
theorem unmarked_blankValue (field : Field) : Text.Unmarked field.blankValue := by
  unfold blankValue
  split <;> simp (disch := exact Spelled.of rfl rfl) [-String.reduceToList]

/-- A type of the page code holds none if the name of its elements does not. -/
theorem unmarked_typeText {type : ValueType} (element : Text.Unmarked type.element) :
    Text.Unmarked type.text := by
  have endings : ∀ condition : Bool, Text.Unmarked (String.toList (if condition then "[]" else "")) ∧
      Text.Unmarked (String.toList (if condition then " | null" else "")) := by
    intro condition
    cases condition <;> exact ⟨unmarked_literal (.of rfl rfl), unmarked_literal (.of rfl rfl)⟩
  unfold ValueType.text
  simp only [unmarked_append]
  exact ⟨⟨element, (endings _).1⟩, (endings _).2⟩

/-- The type of a key. -/
theorem unmarked_numberKey : Text.Unmarked (ValueType.nullable "number").text :=
  unmarked_typeText (unmarked_literal (.of rfl rfl))

/-- The type of a field as the pages receive it. -/
theorem unmarked_recordType (field : Field) : Text.Unmarked field.recordType.text := by
  have types : ∀ kind : FieldKind, Text.Unmarked kind.facts.type.element := by
    intro kind
    cases kind <;> exact unmarked_literal (.of rfl rfl)
  refine unmarked_typeText ?_
  show Text.Unmarked field.presentType.element
  unfold presentType
  split
  · show Text.Unmarked (if field.kind = .tags then "string" else "number")
    split <;> exact unmarked_literal (.of rfl rfl)
  · exact unmarked_literal (.of rfl rfl)
  · exact types field.kind

/-- The type of a field while it is edited. -/
theorem unmarked_formType (field : Field) : Text.Unmarked field.formType.text := by
  refine unmarked_typeText ?_
  unfold formType plainFormType
  split <;> first | exact unmarked_literal (.of rfl rfl) | skip
  split <;> exact unmarked_literal (.of rfl rfl)

/-- The option list and the labels of a field. -/
theorem Unmarked.optionLines (own : field.Unmarked) : AllUnmarked field.optionLines := by
  have options : ∀ option ∈ field.indexedLabels,
      Text.Unmarked (optionLine option.1 option.2) := by
    intro option member
    obtain ⟨pair, listed, rfl⟩ := List.mem_map.mp member
    have label := own.labels pair.1 (List.fst_mem_of_mem_zipIdx listed)
    unfold optionLine
    simp (disch := exact Spelled.of rfl rfl) [label, -String.reduceToList]
  unfold Field.optionLines optionListLines labelFunctionLines
  simp (disch := exact Spelled.of rfl rfl) [-String.reduceToList]
  exact fun value label => options (value, label)

end Field

namespace View

variable {value label list key shown size : Text} {place : Place}

/-- The number of badges shown one by one. -/
@[simp]
theorem unmarked_badgeLimit : Text.Unmarked badgeLimit := unmarked_literal (.of rfl rfl)

/-- The label of a listed record. -/
theorem unmarked_recordCall (records : Text.Unmarked list) (own : Text.Unmarked key)
    (field : Text.Unmarked shown) : Text.Unmarked (recordCall list key shown) := by
  have function : Text.Unmarked recordLabel := unmarked_literal (.of rfl rfl)
  unfold recordCall
  simp (disch := exact Spelled.of rfl rfl) [function, records, own, field, -String.reduceToList]

/-- The badges of a list. -/
theorem unmarked_badgeLines (own : Text.Unmarked value) (words : Text.Unmarked label) :
    AllUnmarked (badgeLines value label place) := by
  unfold badgeLines badgeItems
  cases place <;>
    simp (disch := exact Spelled.of rfl rfl) [own, words, -String.reduceToList]

/-- A single uploaded file. -/
theorem unmarked_fileLines (own : Text.Unmarked value) (preview : Bool) :
    AllUnmarked (fileLines value preview place) := by
  unfold fileLines fileOrDash imageLine outsideLink
  cases place <;>
    simp (disch := exact Spelled.of rfl rfl) [own, -String.reduceToList]

/-- A value of a kind without options. -/
theorem unmarked_kindLines (own : Text.Unmarked value) (preview : Bool) (kind : FieldKind) :
    AllUnmarked (kindLines value preview place kind) := by
  unfold kindLines colorLines rangeCode richTextLine fileListLines outsideLink valueOrDash
  split <;> try split
  all_goals
    simp (disch := exact Spelled.of rfl rfl)
      [own, unmarked_fileLines own, -String.reduceToList]

end View

namespace Field

variable {field : Field} {record : Text} {place : Place}

/-- The value of a field of a record. -/
theorem Unmarked.viewLines (own : field.Unmarked) (clean : Text.Unmarked record) :
    AllUnmarked (field.viewLines record place) := by
  have value : Text.Unmarked (record ++ '.' :: field.name) := by
    simp [clean, own.name]
  have item : Text.Unmarked (View.itemCode field.itemLabel) := by
    unfold itemLabel
    split
    · rename_i model shown found
      have options := own.options
      rw [found] at options
      exact View.unmarked_recordCall Code.unmarked_optionsName (unmarked_literal (.of rfl rfl))
        options.2
    · simp (disch := exact Spelled.of rfl rfl) [View.itemCode, -String.reduceToList]
    · exact unmarked_literal (.of rfl rfl)
  unfold Field.viewLines view
  split
  · exact View.unmarked_badgeLines value item
  · split
    · rename_i model shown found
      have options := own.options
      rw [found] at options
      have list : Text.Unmarked (Code.optionsName field.name) := Code.unmarked_optionsName
      have call := View.unmarked_recordCall list value options.2
      simpa only [FieldView.lines, allUnmarked_cons, unmarked_braced, allUnmarked_nil, and_true]
        using call
    · simp only [FieldView.lines]
      simp (disch := exact Spelled.of rfl rfl) [clean, own.name, -String.reduceToList]
    · exact View.unmarked_kindLines value _ _

end Field

namespace Projection

variable {projection : Projection} {record : Text}

/-- The words shown for a projection. -/
theorem Unmarked.label (own : projection.Unmarked) : Text.Unmarked projection.label := by
  have words := (unmarked_snakeCase projection.relation).labelFor
  simp [Projection.label, words, own.field.labelFor]

/-- A field of a related record. -/
theorem Unmarked.view (own : projection.Unmarked) (clean : Text.Unmarked record) :
    Text.Unmarked (projection.view record) := by
  unfold Projection.view
  simp (disch := exact Spelled.of rfl rfl) [own.field, clean, -String.reduceToList]

end Projection

namespace FormInput

/-- An input of a form holds none if its parts do not. -/
theorem unmarked_lines {input : FormInput} (key : Text.Unmarked input.key)
    (label : Text.Unmarked input.label) (control : input.control.Unmarked)
    (note : AllUnmarked input.note) : AllUnmarked input.lines := by
  have inner : Text.Unmarked
      (Text.unlines (input.control.lines input.key input.label ++ input.note)) := by
    simp [control.lines key label, note]
  have margin : Text.Unmarked Code.step := unmarked_literal (.of rfl rfl)
  unfold FormInput.lines
  simp (disch := exact Spelled.of rfl rfl)
    [key, label, inner.indentLines margin, -String.reduceToList]

end FormInput

/-- The initial value of a key holds none if its parts do not. -/
theorem FormDefault.unmarked_line {value : FormDefault} (key : Text.Unmarked value.key)
    (blank : Text.Unmarked value.blank) (record : ∀ record ∈ value.record, Text.Unmarked record) :
    Text.Unmarked value.line := by
  unfold FormDefault.line
  split
  · simp (disch := exact Spelled.of rfl rfl) [key, blank, -String.reduceToList]
  · rename_i own found
    simp (disch := exact Spelled.of rfl rfl) [key, blank, record own found, -String.reduceToList]

/-- The record of a form is named without percent signs. -/
def FormPurpose.Unmarked : FormPurpose → Prop
  | create => True
  | edit record => Text.Unmarked record

end Scaffold
