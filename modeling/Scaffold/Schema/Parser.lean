import Scaffold.Schema.Diagnostic
import Scaffold.Schema.Field
import Scaffold.Schema.Relationship

/-!
# The schema language

An entity is declared by three texts of tokens with commas between them.

* A field is `name[:type[:validation][:options]]`. The validation is a list of rules with bars
  between them, in which a rule may have parameters behind a colon; the options are labels with
  bars between them, or `@Model.field` for records of another entity. What follows the last colon
  is options if it is a reference, or if it holds a bar and the rule before the colon is not one
  that takes parameters. A select may also write its options as the last rule, `array:A|B`.
* A relationship is `name[^parent]:type:Target[:foreignKey]`.
* A projection is `relation.field`.

Blanks around a part do not matter. A reader returns what it read together with diagnostics for
what it left out.
-/
namespace Scaffold.Schema

/-- Marks options that are records of another entity. -/
def referenceMark : Char := '@'

/-- Marks the parent of a relationship. -/
def cascadeMark : Char := '^'

/-- Rules whose parameters may hold bars, so that what follows them is never a list of options. -/
def parameterisedRules : List Text :=
  List.map String.toList
    ["after", "after_or_equal", "before", "before_or_equal", "between", "date_format", "decimal",
      "different", "digits", "digits_between", "dimensions", "exists", "gt", "gte", "in", "lt",
      "lte", "max", "max_digits", "mimes", "mimetypes", "min", "min_digits", "multiple_of",
      "not_in", "regex", "size"]

/-- The rule that a select may carry its options in. -/
def optionsRule : Text := "array:"

/-- The tokens of a text: what stands between commas, trimmed, unless it is blank. -/
def tokens (text : Text) : List Text :=
  ((Text.splitOn ',' text).map Text.trim).filter (!·.isEmpty)

/-- A text, unless it is blank. -/
def unlessBlank (text : Text) : Option Text := if Text.isBlankText text then none else some text

/-- The text before and after the first rule that carries options, given the text before it in
reverse. A rule begins at the front or behind a bar. -/
def splitOptionsRule? (before : Text) : Text → Option (Text × Text)
  | [] => none
  | c :: rest =>
    if (before.isEmpty || before.head? == some '|') && Text.startsWith (c :: rest) optionsRule then
      some (before.reverse, (c :: rest).drop optionsRule.length)
    else splitOptionsRule? (c :: before) rest

/-- What follows the last colon of a declaration is options. -/
def isOptions (before after : Text) : Bool :=
  after.head? == some referenceMark ||
    after.contains '|' &&
      !parameterisedRules.contains (Text.trim ((Text.splitOn '|' before).getLastD []))

/-- The validation and the options of a declaration behind its type. -/
def splitOptions (kind : FieldKind) (rest : Text) : Option Text × Option Text :=
  match if kind = .select then splitOptionsRule? [] rest else none with
  | some (before, options) =>
    (unlessBlank (Text.dropEndWhile before (· == '|')), some options)
  | none =>
    match Text.splitLast? ':' rest with
    | some (before, after) =>
      if isOptions before (Text.trim after) then (unlessBlank before, some (Text.trim after))
      else (some rest, none)
    | none => (some rest, none)

/-- The rules of a validation, trimmed; flags and empty rules are no rules. -/
def rulesIn (segments : List Text) : List Text :=
  segments.filter fun segment => !segment.isEmpty && !FieldFlags.words.contains segment

/-- The flags among the rules of a validation. -/
def flagsIn (segments : List Text) : FieldFlags :=
  { showPreview := segments.contains FieldFlags.showPreviewWord
    multiple := segments.contains FieldFlags.multipleWord
    searchable := segments.contains FieldFlags.searchableWord }

/-- The trimmed parts of a text between bars. -/
def segments (text : Text) : List Text := (Text.splitOn '|' text).map Text.trim

/-- A validation without its flags. A validation made of flags alone is none. -/
def validationOf (parts : List Text) : Option Text :=
  if (rulesIn parts).isEmpty && parts.any FieldFlags.words.contains then none
  else some (Text.joinWith ['|'] (rulesIn parts))

/-- The rule that lets a value be missing. -/
def nullableRule : Text := "nullable"

/-- A text of rules lets the value be missing. -/
def allowsNull (rules : Text) : Bool := (segments rules).contains nullableRule

/-- The field that shows a record when none is named. -/
def defaultShown : Text := "name"

/-- The options that a text declares. -/
def readOptions (text : Text) : FieldOptions :=
  match Text.trim text with
  | [] => .none
  | c :: rest =>
    if c = referenceMark then
      let (model, shown) := (Text.splitFirst? '.' rest).getD (rest, defaultShown)
      match Text.nonBlank? model with
      | none => .none
      | some model => .records model ((Text.nonBlank? shown).getD defaultShown)
    else
      match (segments (c :: rest)).filter (!·.isEmpty) with
      | [] => .none
      | label :: labels => .labels (label :: labels)

/-- The declared type of a field and what follows it. -/
def splitType : Option Text → Text × Option Text
  | none => ([], none)
  | some rest =>
    match Text.splitFirst? ':' rest with
    | some (type, rest) => (Text.trim type, some rest)
    | none => (Text.trim rest, none)

/-- The kind of a declared type; an unknown type is text. -/
def readKind (token declared : Text) : FieldKind × List Diagnostic :=
  if declared.isEmpty then (.text, [])
  else match FieldKind.lookup? declared with
    | some kind => (kind, [])
    | none => (.text, [⟨token, .unknownFieldType declared⟩])

/-- The options of a field, which only kinds with a list of options keep. -/
def keepOptions (token : Text) (kind : FieldKind) (options : FieldOptions) :
    FieldOptions × List Diagnostic :=
  if options != .none && !kind.isEnumerable then (.none, [⟨token, .optionsIgnored⟩])
  else (options, [])

/-- The field that a token declares. -/
def readField (token : Text) : Option Field × List Diagnostic :=
  let token := Text.trim token
  let (name, rest) := match Text.splitFirst? ':' token with
    | some (name, rest) => (Text.trim name, some rest)
    | none => (token, none)
  if name.isEmpty then (none, [⟨token, .emptyToken⟩])
  else
    let (declared, rest) := splitType rest
    let (kind, unknown) := readKind token declared
    let (written, writtenOptions) := match rest with
      | some rest => splitOptions kind rest
      | none => (none, none)
    let parts := (written.map segments).getD []
    let validation := written.bind fun _ => validationOf parts
    let (options, ignored) :=
      keepOptions token kind ((writtenOptions.map readOptions).getD .none)
    (some
      { name, kind, options, validation
        nullable := (validation.map allowsNull).getD false
        flags := flagsIn parts },
      unknown ++ ignored)

/-- The fields of a list of tokens, behind those already read. A name is taken once. -/
def readFieldsAfter (fields : List Field) : List Text → List Field × List Diagnostic
  | [] => (fields, [])
  | token :: rest =>
    match readField token with
    | (none, notes) =>
      let (all, more) := readFieldsAfter fields rest
      (all, notes ++ more)
    | (some field, notes) =>
      if fields.any (·.name == field.name) then
        let (all, more) := readFieldsAfter fields rest
        (all, notes ++ Diagnostic.mk field.name .duplicateField :: more)
      else
        let (all, more) := readFieldsAfter (fields ++ [field]) rest
        (all, notes ++ more)

/-- The fields that a text declares. -/
def readFields (text : Text) : List Field × List Diagnostic := readFieldsAfter [] (tokens text)

/-- The kind of a declared relationship; an unknown kind is a belonging. -/
def readRelationKind (token declared : Text) : RelationKind × List Diagnostic :=
  match RelationKind.ofText? declared with
  | some kind => (kind, [])
  | none => (.belongsTo, [⟨token, .unknownRelationKind declared⟩])

/-- The relationship that a token declares. -/
def readRelationship (token : Text) : Option Relationship × List Diagnostic :=
  let token := Text.trim token
  let malformed : Option Relationship × List Diagnostic := (none, [⟨token, .malformedRelationship⟩])
  match (Text.splitOn ':' token).map Text.trim with
  | declared :: type :: target :: more =>
    if declared.isEmpty || type.isEmpty || target.isEmpty then malformed
    else
      let (name, parent) := match Text.splitFirst? cascadeMark declared with
        | some (name, parent) => (Text.trim name, Text.nonBlank? parent)
        | none => (declared, none)
      let (kind, unknown) := readRelationKind token type
      let derived := Relationship.ofTarget name kind target
      let foreignKey := match more with
        | key :: _ => if key.isEmpty then derived.foreignKey else key
        | [] => derived.foreignKey
      (some { derived with foreignKey, dependsOn := parent }, unknown)
  | _ => malformed

/-- The relationships of a list of tokens, behind those already read. A key column is owned
once. -/
def readRelationshipsAfter (known : List Relationship) :
    List Text → List Relationship × List Diagnostic
  | [] => (known, [])
  | token :: rest =>
    match readRelationship token with
    | (none, notes) =>
      let (all, more) := readRelationshipsAfter known rest
      (all, notes ++ more)
    | (some relationship, notes) =>
      if relationship.ownsForeignKey &&
          known.any (fun other => other.ownsForeignKey &&
            other.foreignKey == relationship.foreignKey) then
        let (all, more) := readRelationshipsAfter known rest
        (all, notes ++ Diagnostic.mk relationship.name
          (.duplicateForeignKey relationship.foreignKey) :: more)
      else
        let (all, more) := readRelationshipsAfter (known ++ [relationship]) rest
        (all, notes ++ more)

/-- A relationship whose parent is another declared one keeps it. -/
def keepParent (names : List Text) (relationship : Relationship) :
    Relationship × List Diagnostic :=
  match relationship.dependsOn with
  | none => (relationship, [])
  | some parent =>
    if parent != relationship.name && names.contains parent then (relationship, [])
    else ({ relationship with dependsOn := none },
      [⟨relationship.name, .unknownCascadeParent parent⟩])

/-- The relationships that a text declares. -/
def readRelationships (text : Text) : List Relationship × List Diagnostic :=
  let (read, notes) := readRelationshipsAfter [] (tokens text)
  let kept := read.map (keepParent (read.map (·.name)))
  (kept.map (·.1), notes ++ kept.flatMap (·.2))

/-- The projection that a token declares, if its relationship is declared. -/
def readProjection? (relationships : List Relationship) (token : Text) : Option Projection := do
  let (relation, field) ← Text.splitFirst? '.' token
  let projection : Projection := ⟨Text.trim relation, Text.trim field⟩
  if !projection.field.isEmpty && relationships.any (·.name == projection.relation) then
    some projection
  else none

/-- The projections that a text declares. -/
def readProjections (relationships : List Relationship) (text : Text) :
    List Projection × List Diagnostic :=
  ((tokens text).filterMap (readProjection? relationships),
    ((tokens text).filter fun token => (readProjection? relationships token).isNone).map
      fun token => ⟨token, .unresolvedProjection⟩)

end Schema

/-- A declared entity. -/
structure Schema where
  /-- Fields in order of declaration. -/
  fields : List Field
  /-- Relationships in order of declaration. -/
  relationships : List Relationship
  /-- Projections in order of declaration. -/
  projections : List Projection
  /-- What was left out or changed. -/
  diagnostics : List Diagnostic
deriving DecidableEq, Repr

/-- The entity that three texts declare. -/
def Schema.read (fields relationships projections : Text) : Schema :=
  let (readFields, fieldNotes) := Schema.readFields fields
  let (readRelationships, relationshipNotes) := Schema.readRelationships relationships
  let (readProjections, projectionNotes) := Schema.readProjections readRelationships projections
  { fields := readFields
    relationships := readRelationships
    projections := readProjections
    diagnostics := fieldNotes ++ relationshipNotes ++ projectionNotes }

end Scaffold
