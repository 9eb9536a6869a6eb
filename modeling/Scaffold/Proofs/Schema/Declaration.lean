import Scaffold.Proofs.Text.Atom
import Scaffold.Schema.Parser

/-!
# Written declarations

A declaration as data, how it is written, and what it declares. The parts of a field behind its
type are segments, each a flag, a plain rule or a rule with a parameter, and options. A declaration
is proper if its atoms are free of the separators around them, so that it can be written at all.
-/
namespace Scaffold

namespace Schema

/-- The flags of a field, one by one. -/
inductive Flag where
  /-- An image is shown. -/
  | showPreview
  /-- Several options may be chosen. -/
  | multiple
  /-- The field is searched. -/
  | searchable
deriving DecidableEq, Repr

/-- The word of a flag. -/
def Flag.word : Flag → Text
  | showPreview => FieldFlags.showPreviewWord
  | multiple => FieldFlags.multipleWord
  | searchable => FieldFlags.searchableWord

/-- A part of the validation of a field. -/
inductive Segment where
  /-- A flag. -/
  | flag (mark : Flag)
  /-- A rule without parameter. -/
  | rule (name : Text)
  /-- A rule with its parameter. -/
  | parameterised (name parameter : Text)
deriving DecidableEq, Repr

namespace Segment

/-- The segment as it is written. -/
def text : Segment → Text
  | flag mark => mark.word
  | rule name => name
  | parameterised name parameter => name ++ ':' :: parameter

/-- The segment is a rule and no flag. -/
def isRule : Segment → Bool
  | flag _ => false
  | _ => true

/-- The segment can be written for a kind of field. A plain rule is not the name of one that takes
parameters, no flag, and for a select not the rule that carries options; a parameter is not taken
for a reference. -/
def Proper (kind : FieldKind) : Segment → Prop
  | flag _ => True
  | rule name =>
    Text.IsAtom [',', ':', '|'] name ∧ name ∉ parameterisedRules ∧ name ∉ FieldFlags.words ∧
      (kind = .select → name ≠ ("array" : Text))
  | parameterised name parameter =>
    name ∈ parameterisedRules ∧ Text.IsAtom [',', ':', '|'] parameter ∧
      parameter.head? ≠ some referenceMark

end Segment

/-- The options of a field as they are written. -/
inductive WrittenOptions where
  /-- Labels with bars between them, or a bar behind each of them. -/
  | labels (first : Text) (more : List Text) (barred : Bool)
  /-- A field of the records of another entity. -/
  | records (model shown : Text)
deriving DecidableEq, Repr

namespace WrittenOptions

/-- The options as they are written. A single label has a bar behind it in any case. -/
def text : WrittenOptions → Text
  | labels first more barred =>
    if barred || more.isEmpty then Text.concat ((first :: more).map (· ++ ['|']))
    else Text.joinWith ['|'] (first :: more)
  | records model shown => referenceMark :: model ++ '.' :: shown

/-- What the options declare. -/
def options : WrittenOptions → FieldOptions
  | labels first more _ => .labels (first :: more)
  | records model shown => .records model shown

/-- The options can be written. -/
def Proper : WrittenOptions → Prop
  | labels first more _ =>
    (∀ label ∈ first :: more, Text.IsAtom [',', ':', '|'] label) ∧
      first.head? ≠ some referenceMark
  | records model shown => Text.IsAtom [',', ':', '.'] model ∧ Text.IsAtom [',', ':'] shown

end WrittenOptions

/-- A declaration of a field. -/
structure FieldDeclaration where
  /-- The name. -/
  name : Text
  /-- The kind. -/
  kind : FieldKind
  /-- The parts of the validation, in order. -/
  segments : List Segment
  /-- The options. -/
  options : Option WrittenOptions
deriving DecidableEq, Repr

namespace FieldDeclaration

/-- The validation as it is written. -/
def validationText (declaration : FieldDeclaration) : Text :=
  Text.joinWith ['|'] (declaration.segments.map Segment.text)

/-- What is written behind the type. An empty validation is written only before options. -/
def rest? (declaration : FieldDeclaration) : Option Text :=
  match declaration.options with
  | some options => some (declaration.validationText ++ ':' :: options.text)
  | none => if declaration.segments.isEmpty then none else some declaration.validationText

/-- The declaration as it is written. -/
def token (declaration : FieldDeclaration) : Text :=
  declaration.name ++ ':' :: declaration.kind.name ++
    match declaration.rest? with
    | some rest => ':' :: rest
    | none => []

/-- The rules of the validation. -/
def rules (declaration : FieldDeclaration) : List Text :=
  (declaration.segments.filter Segment.isRule).map Segment.text

/-- The field that is declared. -/
def field (declaration : FieldDeclaration) : Field :=
  { name := declaration.name
    kind := declaration.kind
    nullable := declaration.segments.contains (.rule nullableRule)
    validation :=
      if declaration.rules.isEmpty then none else some (Text.joinWith ['|'] declaration.rules)
    options := (declaration.options.map WrittenOptions.options).getD .none
    flags :=
      { showPreview := declaration.segments.contains (.flag .showPreview)
        multiple := declaration.segments.contains (.flag .multiple)
        searchable := declaration.segments.contains (.flag .searchable) } }

/-- The declaration can be written: its atoms are free of separators, and only kinds with a list of
options have options. -/
structure Proper (declaration : FieldDeclaration) : Prop where
  /-- The name is an atom. -/
  name : Text.IsAtom [',', ':'] declaration.name
  /-- All segments can be written. -/
  segments : ∀ segment ∈ declaration.segments, segment.Proper declaration.kind
  /-- The options can be written. -/
  options : ∀ options, declaration.options = some options →
    declaration.kind ∈ [FieldKind.select, .radio, .checkboxGroup, .multiselect] ∧ options.Proper

end FieldDeclaration

/-- A declaration of a relationship. -/
structure RelationshipDeclaration where
  /-- The name. -/
  name : Text
  /-- The relationship that narrows it. -/
  parent : Option Text
  /-- How records belong together. -/
  kind : RelationKind
  /-- The related entity. -/
  target : Text
  /-- The key column. -/
  foreignKey : Option Text
deriving DecidableEq, Repr

namespace RelationshipDeclaration

/-- The name and the parent as they are written. -/
def nameText (declaration : RelationshipDeclaration) : Text :=
  declaration.name ++
    match declaration.parent with
    | some parent => cascadeMark :: parent
    | none => []

/-- The declaration as it is written. -/
def token (declaration : RelationshipDeclaration) : Text :=
  Text.joinWith [':']
    ([declaration.nameText, declaration.kind.name, declaration.target] ++
      declaration.foreignKey.toList)

/-- The relationship that is declared. -/
def relationship (declaration : RelationshipDeclaration) : Relationship :=
  let derived := Relationship.ofTarget declaration.name declaration.kind declaration.target
  { derived with
    foreignKey := declaration.foreignKey.getD derived.foreignKey
    dependsOn := declaration.parent }

/-- The declaration can be written: its atoms are free of separators. -/
structure Proper (declaration : RelationshipDeclaration) : Prop where
  /-- The name is an atom. -/
  name : Text.IsAtom [',', ':', '^'] declaration.name
  /-- So is the parent. -/
  parent : ∀ parent, declaration.parent = some parent → Text.IsAtom [',', ':'] parent
  /-- So is the related entity. -/
  target : Text.IsAtom [',', ':'] declaration.target
  /-- So is the key column. -/
  foreignKey : ∀ key, declaration.foreignKey = some key → Text.IsAtom [',', ':'] key

end RelationshipDeclaration

/-- A declaration of an entity. -/
structure Declaration where
  /-- The fields. -/
  fields : List FieldDeclaration
  /-- The relationships. -/
  relationships : List RelationshipDeclaration
  /-- The projections. -/
  projections : List Projection
deriving DecidableEq, Repr

namespace Declaration

/-- The names of the relationships. -/
def relationNames (declaration : Declaration) : List Text :=
  declaration.relationships.map (·.name)

/-- The key columns that the entity has of its own. -/
def ownedKeys (declaration : Declaration) : List Text :=
  ((declaration.relationships.map (·.relationship)).filter (·.ownsForeignKey)).map (·.foreignKey)

/-- The declaration can be written, and nothing in it contradicts the rest. -/
structure Proper (declaration : Declaration) : Prop where
  /-- Every field can be written. -/
  fields : ∀ field ∈ declaration.fields, field.Proper
  /-- No two fields share a name. -/
  fieldNames : (declaration.fields.map (·.name)).Nodup
  /-- Every relationship can be written. -/
  relationships : ∀ relationship ∈ declaration.relationships, relationship.Proper
  /-- No two relationships own one key column. -/
  ownedKeys : declaration.ownedKeys.Nodup
  /-- A parent is another relationship that is declared. -/
  parents : ∀ relationship ∈ declaration.relationships, ∀ parent,
    relationship.parent = some parent →
      parent ≠ relationship.name ∧ parent ∈ declaration.relationNames
  /-- Every projection can be written. -/
  projections : ∀ projection ∈ declaration.projections,
    Text.IsAtom [',', '.'] projection.relation ∧ Text.IsAtom [','] projection.field
  /-- The relationship of a projection is declared. -/
  related : ∀ projection ∈ declaration.projections,
    projection.relation ∈ declaration.relationNames

/-- The fields as they are written. -/
def fieldText (declaration : Declaration) : Text :=
  Text.joinWith [','] (declaration.fields.map (·.token))

/-- The relationships as they are written. -/
def relationshipText (declaration : Declaration) : Text :=
  Text.joinWith [','] (declaration.relationships.map (·.token))

/-- The projections as they are written. -/
def projectionText (declaration : Declaration) : Text :=
  Text.joinWith [','] (declaration.projections.map (·.key))

/-- The entity that is declared. -/
def schema (declaration : Declaration) : Schema :=
  { fields := declaration.fields.map (·.field)
    relationships := declaration.relationships.map (·.relationship)
    projections := declaration.projections
    diagnostics := [] }

end Declaration

end Schema

end Scaffold
