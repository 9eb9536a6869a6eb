import Scaffold.Plan.Basic
import Scaffold.Schema.Parser

/-!
# Columns, casts and rules of a plan

What follows from the fields and relationships of an entity alone: the columns that a request may
assign, the conversions of the model, and the validation rules of the requests.
-/
namespace Scaffold.Plan

/-- Rules of one number of a slider. -/
def sliderElementRule : Text := "integer|min:0|max:100"

/-- Rules of one file of several. -/
def mediaElementRule : Text := "file|max:10240"

/-- Rules of one free word. -/
def tagElementRule : Text := "string|max:50"

/-- A relationship to another entity whose key is a column of this one. -/
def ownsKeyToOther (model : Text) (relationship : Relationship) : Bool :=
  relationship.ownsForeignKey && !relationship.isSelfReference model

/-- The columns that a request assigns: fields stored in the table, then keys, each once and never
the column of the owner. -/
def fillableOf (fields : List Field) (relationships : List Relationship) (model : Text) :
    List Text :=
  firstOccurrences <|
    (((fields.filter (·.kind.isFormWritable)).map (·.name)) ++
      ((relationships.filter (ownsKeyToOther model)).map (·.foreignKey))).filter
        (· != ownershipColumn)

/-- The conversion of a field. -/
def castOf? (field : Field) : Option Cast :=
  if field.isMultiple then some .array
  else if field.hasRecords then some .integer
  else field.facts.cast

/-- The conversions of the fields that have one. -/
def castsOf (fields : List Field) : List (Text × Cast) :=
  fields.filterMap fun field => (castOf? field).map fun cast => (field.name, cast)

/-- Rules with bars between them. -/
def joinRules (rules : List Text) : Text := Text.joinWith ['|'] rules

/-- The key of the elements of a list. -/
def elementKey (key : Text) : Text := key ++ ".*"

/-- The rule that a value is the key of a record of a table. -/
def existsRule (table : Text) : Text := "exists:" ++ table ++ ",id"

/-- The rule that a value is one of the positions of a list of labels. -/
def positionsRule (count : Nat) : Text :=
  "in:" ++ Text.joinWith [','] ((List.range count).map Text.ofNat)

/-- Whether a value must be there, as the first rule of a field. -/
def presenceRule (field : Field) : Text :=
  if field.nullable || field.kind.isMedia then Schema.nullableRule else "required"

/-- The rules of a choice among whole numbers that satisfy a rule. -/
def choiceRules (field : Field) (memberRule : Text) : List ValidationRule :=
  if field.isMultiple then
    [⟨field.name, joinRules [presenceRule field, "array"]⟩,
      ⟨elementKey field.name, joinRules ["integer", memberRule]⟩]
  else [⟨field.name, joinRules [presenceRule field, "integer", memberRule]⟩]

/-- The rules of the elements of a kind that holds several values. -/
def elementRules (field : Field) : List ValidationRule :=
  match field.kind with
  | .slider => [⟨field.name ++ ".0", sliderElementRule⟩]
  | .mediaMultiple => [⟨elementKey field.name, mediaElementRule⟩]
  | .tags => [⟨elementKey field.name, tagElementRule⟩]
  | _ => []

/-- The rule of a field that has no options. -/
def kindRule (field : Field) : Text :=
  if field.isMultiple && field.facts.choice == .single then "array" else field.facts.rule

/-- The rules of a field. Validation of its own replaces the rules of its options and kind. -/
def fieldRules (field : Field) : List ValidationRule :=
  match field.validation with
  | some validation =>
    [⟨field.name, if Text.isBlankText validation then Schema.nullableRule else validation⟩]
  | none =>
    match field.options with
    | .records model _ =>
      choiceRules field (existsRule (Inflection.pluralize (Text.snakeCase model)))
    | .labels labels => choiceRules field (positionsRule labels.length)
    | .none => ⟨field.name, joinRules [presenceRule field, kindRule field]⟩ :: elementRules field

/-- The rules of the key of a relationship. -/
def keyRule (relationship : Relationship) : ValidationRule :=
  ⟨relationship.foreignKey,
    joinRules [Schema.nullableRule, "integer", existsRule relationship.targetTable]⟩

/-- The rules of an entity: those of its fields, then those of keys that no field declares. -/
def rulesOf (fields : List Field) (relationships : List Relationship) (model : Text) :
    List ValidationRule :=
  fields.flatMap fieldRules ++
    (relationships.filter fun relationship => ownsKeyToOther model relationship &&
      !fields.any (·.name == relationship.foreignKey)).map keyRule

end Scaffold.Plan
