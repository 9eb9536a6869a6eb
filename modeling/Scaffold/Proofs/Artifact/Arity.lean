import Scaffold.Proofs.Artifact.Parts
import Scaffold.Proofs.Code.Mention
import Scaffold.Proofs.Plan.Rules

/-!
# Fields that hold a list

Whether a field whose value is chosen holds one value or several is told by its kind and its flags
(`Field.isMultiple`). The column, the conversion, the rule, the types and the initial value of the
field follow it (`Plan.HoldsAlike`), and so does its control, but for one: radio buttons stay radio
buttons when the flag lets several options be chosen, and assign a single number
(`Plan.lists_agreed`).
-/
namespace Scaffold

open Text

namespace Column

/-- The written column holds a JSON value. -/
def IsJson (column : Column) : Prop := startsWith column.line "$table->json(" = true

/-- Whether a written column does so can be read off it. -/
instance (column : Column) : Decidable column.IsJson := inferInstanceAs (Decidable (_ = true))

/-- A written column holds a JSON value exactly if that is its type. -/
theorem isJson_iff (column : Column) : column.IsJson ↔ column.type = .stored .json := by
  obtain ⟨name, type, default⟩ := column
  cases type with
  | recordKey => exact iff_of_false Bool.false_ne_true nofun
  | stored storage =>
    cases storage with
    | json => exact iff_of_true rfl rfl
    | _ => exact iff_of_false Bool.false_ne_true nofun

end Column

namespace ValueType

/-- The written type is one of lists. -/
def IsListText (type : ValueType) : Prop := endsWith type.text "[]" = true

/-- Whether a written type is one can be read off it. -/
instance (type : ValueType) : Decidable type.IsListText := inferInstanceAs (Decidable (_ = true))

/-- The type without null. -/
def withoutNull (type : ValueType) : ValueType := { type with orNull := false }

end ValueType

namespace Control

open Markup

/-- A choice of a single option assigns its number. -/
theorem standsIn_setNumber (key label : Text) (choices : ChoiceList) :
    StandsIn (setData key "Number(value)") (lines key label (.select choices [])) ∧
      StandsIn (setData key "Number(value)") (lines key label (.radioGroup choices)) := by
  have inside : setData key "Number(value)" <:+: setNumber key := (List.suffix_append _ _).isInfix
  have own : ∀ value : Text, Attribute.code "onValueChange" (setNumber key) ∈
      [.code "value" value, .code "onValueChange" (setNumber key)] :=
    fun _ => List.mem_cons_of_mem _ List.mem_cons_self
  exact ⟨(standsIn_element (own _)).within inside, (standsIn_element (own _)).within inside⟩

end Control

namespace Field

variable {field : Field}

/-- What a list of chosen values holds. -/
def chosenElement (field : Field) : Text := if field.kind = .tags then "string" else "number"

/-- Lists of chosen values are written as lists, and the other types of chosen values are not. -/
theorem isListText_types (field : Field) : (ValueType.list field.chosenElement).IsListText ∧
    ¬(ValueType.plain "number").IsListText ∧ ¬(ValueType.nullable "number").IsListText := by
  refine ⟨?_, by decide, by decide⟩
  unfold chosenElement
  split
  · decide
  · decide

/-- A value that is chosen is no upload. -/
theorem isMedia_of_choice (chosen : field.choice ≠ .none) : field.kind.isMedia = false := by
  obtain ⟨name, kind, nullable, validation, options, preview, multiple, searchable⟩ := field
  cases kind <;> first | rfl | exact absurd rfl chosen

/-- Several values of a single choice are chosen where the flag says so. -/
theorem isMultiple_cases (chosen : field.choice ≠ .none) :
    field.facts.choice = .single ∨ field.facts.choice = .multiple ∧ field.isMultiple = true := by
  obtain ⟨name, kind, nullable, validation, options, preview, multiple, searchable⟩ := field
  cases kind <;> first | exact .inl rfl | exact .inr ⟨rfl, rfl⟩ | exact absurd rfl chosen

/-- The type of a chosen value in the model interface, apart from null. -/
theorem withoutNull_recordType (chosen : field.choice ≠ .none) : field.recordType.withoutNull =
    if field.isMultiple then .list field.chosenElement else .plain "number" := by
  unfold recordType presentType isMultiple
  cases found : field.choice with
  | none => exact absurd found chosen
  | single => rfl
  | multiple => rfl

/-- The type of a chosen value on the forms. -/
theorem formType_of_choice (chosen : field.choice ≠ .none) : field.formType =
    if field.isMultiple then .list field.chosenElement else .nullable "number" := by
  have stored := isMedia_of_choice chosen
  unfold formType
  split
  · rename_i kind
    exact absurd stored (by rw [kind]; decide)
  · rename_i kind
    exact absurd stored (by rw [kind]; decide)
  · rename_i kind
    simp [isMultiple, choice, facts, FieldKind.facts, chosenElement, kind]
  · rename_i several _ _ other
    have element : field.chosenElement = "number" := if_neg other
    simp [isMultiple, several, element]
  · rename_i single _ _ _
    simp [isMultiple, single]
  · rename_i none _ _ _
    exact absurd none chosen

/-- The value of the forms before anything is chosen. -/
theorem blankValue_of_choice (chosen : field.choice ≠ .none) :
    field.blankValue = if field.isMultiple then ("[]" : Text) else ("null" : Text) := by
  obtain ⟨name, kind, nullable, validation, options, preview, multiple, searchable⟩ := field
  cases kind <;> cases multiple <;> first | rfl | exact absurd rfl chosen

/-- The control of a field edits a list if several values are chosen, and the kind is not that of
radio buttons. -/
theorem editsList_control (field : Field) :
    field.control.editsList = (field.isMultiple && field.kind != .radio) := by
  obtain ⟨name, kind, nullable, validation, options, preview, multiple, searchable⟩ := field
  cases kind <;> cases multiple <;> rfl

/-- A chosen value whose control edits no list is picked from a drop-down list or by radio
buttons. -/
theorem control_of_single (chosen : field.choice ≠ .none) (single : field.control.editsList = false) :
    field.control = .select field.choiceList [] ∨ field.control = .radioGroup field.choiceList := by
  obtain ⟨name, kind, nullable, validation, options, preview, multiple, searchable⟩ := field
  cases kind <;> cases multiple <;>
    first
    | exact .inl rfl
    | exact .inr rfl
    | exact absurd rfl chosen
    | exact Bool.noConfusion (show true = false from single)

/-- The column of a chosen value holds a JSON value exactly if several values are chosen. -/
theorem typeOf_eq_json_iff (chosen : field.choice ≠ .none) :
    Column.typeOf field = .stored .json ↔ field.isMultiple = true := by
  have catalog : ∀ kind ∈ FieldKind.all, kind.facts.choice = .single → kind.facts.storage ≠ .json := by
    decide
  unfold Column.typeOf
  split
  · rename_i several
    exact iff_of_true rfl several
  · rename_i single
    refine iff_of_false ?_ single
    split
    · nofun
    · intro same
      rcases isMultiple_cases chosen with kind | ⟨-, several⟩
      · exact catalog field.kind (FieldKind.mem_all _) kind (ColumnType.stored.inj same)
      · exact single several

end Field

namespace Plan

variable {field : Field}

/-- The conversion of a chosen value. -/
theorem castOf?_of_choice (chosen : field.choice ≠ .none) :
    castOf? field = some (if field.isMultiple then .array else .integer) := by
  have catalog : ∀ kind ∈ FieldKind.all, kind.facts.choice = .single →
      kind.facts.cast = some .integer := by decide
  unfold castOf?
  split
  · rfl
  · rename_i single
    split
    · rfl
    · rcases Field.isMultiple_cases chosen with kind | ⟨-, several⟩
      · exact catalog field.kind (FieldKind.mem_all _) kind
      · exact absurd several single

/-- The own rule of a chosen value without validation asks for a list exactly if several values are
chosen. -/
theorem array_mem_ownRule (chosen : field.choice ≠ .none) (absent : field.validation = none) :
    "array".toList ∈ Schema.segments (ownRule field) ↔ field.isMultiple = true := by
  have catalog : ∀ kind ∈ FieldKind.all, (kind.facts.choice = .single →
      ("array" : Text) ∉ Schema.segments kind.facts.rule) ∧ (kind.facts.choice = .multiple →
      ("array" : Text) ∈ Schema.segments kind.facts.rule) := by decide
  have presence : "array".toList ≠ presenceRule field := by
    unfold presenceRule
    split
    · decide
    · decide
  rw [mem_segments_ownRule absent (by decide), or_iff_right presence]
  split
  · -- Without options the rule is the one of the kind, or that of a list by the flag.
    unfold kindRule
    rcases Field.isMultiple_cases chosen with kind | ⟨kind, several⟩
    · split
      · rename_i several
        exact iff_of_true (by decide) (Bool.and_eq_true_iff.mp several).1
      · rename_i single
        refine iff_of_false ((catalog field.kind (FieldKind.mem_all _)).1 kind) fun several => single ?_
        simp [several, kind]
    · rw [kind, several]
      exact iff_of_true ((catalog field.kind (FieldKind.mem_all _)).2 kind) rfl
  · split
    · rename_i several
      exact iff_of_true rfl several
    · rename_i single
      exact iff_of_false (by decide) single

/-- The generated files, apart from the control, hold a list for a field exactly if several values
are chosen. -/
structure HoldsAlike (plan : Plan) (field : Field) : Prop where
  /-- The column holds a JSON value. -/
  column : AtKey Column.name plan.columns field.name (·.IsJson ↔ field.isMultiple = true)
  /-- The model converts it to a list. -/
  cast : AtKey Prod.fst plan.casts field.name (·.2 = .array ↔ field.isMultiple = true)
  /-- The rule asks for a list, unless the field has validation of its own. -/
  rule : field.validation = none → fieldRules field ⊆ plan.rules ∧
    AtKey ValidationRule.key (fieldRules field) field.name
      ("array".toList ∈ Schema.segments ·.rule ↔ field.isMultiple = true)
  /-- The type in the model interface, apart from null, is one of lists. -/
  recordType : AtKey Prod.fst plan.recordValues field.name
    (·.2.withoutNull.IsListText ↔ field.isMultiple = true)
  /-- The type on the forms is one of lists. -/
  formType : AtKey FormAttribute.key plan.formAttributes field.name
    (·.type.IsListText ↔ field.isMultiple = true)
  /-- The forms begin with an empty list. -/
  blank : ∀ purpose, AtKey FormDefault.key (plan.formDefaults purpose) field.name
    (·.blank = "[]" ↔ field.isMultiple = true)

/-- The generated files, apart from the control, agree on every field whose value is chosen. -/
theorem holdsAlike_ofOptions (options : Options) (member : field ∈ (ofOptions options).fields)
    (chosen : field.choice ≠ .none) : (ofOptions options).HoldsAlike field := by
  have declared := declared_ofOptions options
  obtain ⟨list, single, nullable⟩ := field.isListText_types
  constructor
  case column =>
    have made := ofField?_of_stored (Field.isMedia_of_choice chosen)
    refine (declared.own_columns member made).imp ?_
    rintro column rfl
    exact (Column.isJson_iff _).trans (Field.typeOf_eq_json_iff chosen)
  case cast =>
    refine (own_casts options member (castOf?_of_choice chosen)).imp ?_
    rintro cast rfl
    cases field.isMultiple with
    | false => exact iff_of_false nofun nofun
    | true => exact iff_of_true rfl rfl
  case rule =>
    refine fun absent => ⟨fieldRules_subset options member, (own_fieldRules field).imp ?_⟩
    rintro ⟨key, rule⟩ rfl
    exact array_mem_ownRule chosen absent
  case recordType =>
    refine (declared.own_recordValues member).imp ?_
    rintro value rfl
    rw [Field.withoutNull_recordType chosen]
    split
    · rename_i several
      exact iff_of_true list several
    · rename_i one
      exact iff_of_false single one
  case formType =>
    refine (declared.own_formAttributes member).imp ?_
    rintro value rfl
    rw [Field.formType_of_choice chosen]
    split
    · rename_i several
      exact iff_of_true list several
    · rename_i one
      exact iff_of_false nullable one
  case blank =>
    refine fun purpose => (declared.own_formDefaults member purpose).imp ?_
    rintro value rfl
    show field.blankValue = "[]" ↔ _
    rw [Field.blankValue_of_choice chosen]
    cases field.isMultiple with
    | false => exact iff_of_false (by decide) nofun
    | true => exact iff_of_true rfl rfl

/-- Shirts with several sizes, picked from a drop-down list. -/
def listedSizes : Options := { displayName := "Shirt", fields := "size:select:multiple:S|M" }

/-- The sizes of such a shirt. -/
def listedSize : Field :=
  ⟨"size", .select, false, none, .labels ["S", "M"], ⟨false, true, false⟩⟩

/-- Shirts with several sizes, picked by radio buttons. -/
def pressedSizes : Options := { displayName := "Shirt", fields := "size:radio:multiple:S|M" }

/-- The sizes of such a shirt. -/
def pressedSize : Field := { listedSize with kind := .radio }

end Plan

end Scaffold
