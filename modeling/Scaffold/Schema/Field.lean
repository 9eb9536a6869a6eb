import Scaffold.Schema.Kind
import Scaffold.Text.Words

/-!
# Fields

A declared field of an entity: its kind, its own validation, its options and its flags.
-/
namespace Scaffold

/-- Where the options of a field come from. -/
inductive FieldOptions where
  /-- The field has no options. -/
  | none
  /-- A fixed list of labels; the position of a label is stored. -/
  | labels (labels : List Text)
  /-- Records of another entity, shown by one of their fields. -/
  | records (model shown : Text)
deriving DecidableEq, Repr

/-- Marks that a declaration sets on a field. -/
structure FieldFlags where
  /-- An uploaded image is shown and not only linked. -/
  showPreview : Bool
  /-- Several options may be chosen where the kind has one. -/
  multiple : Bool
  /-- The field is searched. -/
  searchable : Bool
deriving DecidableEq, Repr

/-- A field of an entity. -/
structure Field where
  /-- Name and column. -/
  name : Text
  /-- What the field means. -/
  kind : FieldKind
  /-- The value may be missing. -/
  nullable : Bool
  /-- Validation that replaces the rule of the kind. -/
  validation : Option Text
  /-- Where options come from. -/
  options : FieldOptions
  /-- Marks. -/
  flags : FieldFlags
deriving DecidableEq, Repr

namespace FieldFlags

/-- No marks. -/
def unset : FieldFlags := ⟨false, false, false⟩

/-- The word that marks an image for preview. -/
def showPreviewWord : Text := "showPreview"

/-- The word that lets several options be chosen. -/
def multipleWord : Text := "multiple"

/-- The word that marks a searched field. -/
def searchableWord : Text := "searchable"

/-- The words that are flags and no validation rules. -/
def words : List Text := [showPreviewWord, multipleWord, searchableWord]

end FieldFlags

namespace Field

/-- The words shown for the field. -/
def label (field : Field) : Text := Text.labelFor field.name

/-- The catalog entry of the field's kind. -/
def facts (field : Field) : KindFacts := field.kind.facts

/-- How many values are chosen; the flag lets a single choice become several. -/
def choice (field : Field) : Choice :=
  match field.facts.choice with
  | .single => if field.flags.multiple then .multiple else .single
  | other => other

/-- Several values are chosen. -/
def isMultiple (field : Field) : Bool := field.choice == .multiple

/-- The fixed labels, if the options are such a list. -/
def labels? (field : Field) : Option (List Text) :=
  match field.options with
  | .labels labels => some labels
  | _ => none

/-- The model and the shown field of the records, if the options are records. -/
def source? (field : Field) : Option (Text × Text) :=
  match field.options with
  | .records model shown => some (model, shown)
  | _ => none

/-- The options are a fixed list. -/
def hasLabels (field : Field) : Bool := field.labels?.isSome

/-- The options are records. -/
def hasRecords (field : Field) : Bool := field.source?.isSome

/-- The list page can filter by the field. -/
def isFilterable (field : Field) : Bool := field.kind.isEnumerable && field.options != .none

/-- The fixed labels with the positions that are stored for them. -/
def indexedLabels (field : Field) : List (Nat × Text) :=
  (field.labels?.getD []).zipIdx.map fun (label, index) => (index, label)

end Field

end Scaffold
