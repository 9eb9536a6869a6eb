import Scaffold.Text.Blank

/-!
# Kinds of fields

The closed catalog of field kinds. A kind decides how the value is stored, which rule it is
validated by, how the model casts it, which control edits it and how many values it holds. All
later stages read these facts from here.
-/
namespace Scaffold

namespace Text

/-- A text with its ASCII letters in lower case. -/
def lowerAscii (text : Text) : Text := text.map Char.toLower

/-- The first member of a vocabulary that has a given name. -/
def named? {α : Type} (members : List α) (nameOf : α → Text) (text : Text) : Option α :=
  members.find? fun member => nameOf member = text

end Text

/-- What a field means. -/
inductive FieldKind where
  /-- One line of text. -/
  | text
  /-- Several lines of text. -/
  | textarea
  /-- One of a list of options, or several when the field is marked so. -/
  | select
  /-- One of a list of options, all visible. -/
  | radio
  /-- Several of a list of options, all visible. -/
  | checkboxGroup
  /-- Several of a list of options. -/
  | multiselect
  /-- A day. -/
  | date
  /-- A first and a last day. -/
  | dateRange
  /-- A first and a last moment. -/
  | datetimeRange
  /-- A whole number. -/
  | number
  /-- An amount of money. -/
  | currency
  /-- One to five stars. -/
  | rating
  /-- Numbers from 0 to 100. -/
  | slider
  /-- Yes or no. -/
  | switch
  /-- A colour. -/
  | color
  /-- Formatted text. -/
  | richText
  /-- A telephone number. -/
  | phone
  /-- A list of free words. -/
  | tags
  /-- One uploaded file. -/
  | mediaSingle
  /-- Several uploaded files. -/
  | mediaMultiple
deriving DecidableEq, Repr

/-- How many values a field holds when they are chosen. -/
inductive Choice where
  /-- Nothing is chosen. -/
  | none
  /-- One value. -/
  | single
  /-- Several values. -/
  | multiple
deriving DecidableEq, Repr

/-- Shape of a column in the database. -/
inductive Storage where
  /-- A text of bounded length. -/
  | string (length : Nat)
  /-- A text. -/
  | text
  /-- A long text. -/
  | longText
  /-- A JSON value. -/
  | json
  /-- A day. -/
  | date
  /-- A whole number. -/
  | integer
  /-- A small number without sign. -/
  | unsignedTinyInteger
  /-- A decimal number with its digits in all and behind the point. -/
  | decimal (precision scale : Nat)
  /-- A truth value. -/
  | boolean
  /-- Kept in the media library and not in the table. -/
  | external
deriving DecidableEq, Repr

/-- Conversion of a stored value by the model. -/
inductive Cast where
  /-- To a whole number. -/
  | integer
  /-- To a list or map. -/
  | array
  /-- To a day. -/
  | date
  /-- To a decimal with two places. -/
  | decimal
  /-- To a truth value. -/
  | boolean
deriving DecidableEq, Repr

/-- The written form of a cast. -/
def Cast.name : Cast → Text
  | integer => "integer"
  | array => "array"
  | date => "date:Y-m-d"
  | decimal => "decimal:2"
  | boolean => "boolean"

/-- A component of the user interface that edits a field. -/
inductive Component where
  /-- A plain input. -/
  | input
  /-- A text area. -/
  | textarea
  /-- A drop-down list. -/
  | select
  /-- Radio buttons. -/
  | radioGroup
  /-- Check boxes. -/
  | checkbox
  /-- A drop-down list with several choices. -/
  | multiSelect
  /-- Stars. -/
  | rating
  /-- A slider. -/
  | slider
  /-- A switch. -/
  | switch
  /-- An editor of formatted text. -/
  | richTextEditor
  /-- An input of free words. -/
  | tagInput
deriving DecidableEq, Repr

/-- The name under which a component is imported. -/
def Component.name : Component → Text
  | input => "Input"
  | textarea => "Textarea"
  | select => "Select"
  | radioGroup => "RadioGroup"
  | checkbox => "Checkbox"
  | multiSelect => "MultiSelect"
  | rating => "Rating"
  | slider => "Slider"
  | switch => "Switch"
  | richTextEditor => "RichTextEditor"
  | tagInput => "TagInput"

/-- The module from which a component is imported. -/
def Component.source : Component → Text
  | input => "@/components/ui/input"
  | textarea => "@/components/ui/textarea"
  | select => "@/components/ui/select"
  | radioGroup => "@/components/ui/radio-group"
  | checkbox => "@/components/ui/checkbox"
  | multiSelect => "@/components/ui/multi-select"
  | rating => "@/components/ui/rating"
  | slider => "@/components/ui/slider"
  | switch => "@/components/ui/switch"
  | richTextEditor => "@/components/rich-text-editor"
  | tagInput => "@/components/ui/tag-input"

/-- A type of the page code: an element type, whether there is a list of it, and whether the value
may be null. -/
structure ValueType where
  /-- Name of the element type. -/
  element : Text
  /-- The value is a list of elements. -/
  isList : Bool
  /-- The value may be null. -/
  orNull : Bool
deriving DecidableEq, Repr

/-- The written form of a type. -/
def ValueType.text (type : ValueType) : Text :=
  type.element ++ (if type.isList then "[]" else "") ++ (if type.orNull then " | null" else "")

/-- A type of single values that are never null. -/
def ValueType.plain (element : Text) : ValueType := ⟨element, false, false⟩

/-- A type of lists that are never null. -/
def ValueType.list (element : Text) : ValueType := ⟨element, true, false⟩

/-- A type of single values that may be null. -/
def ValueType.nullable (element : Text) : ValueType := ⟨element, false, true⟩

/-- The facts about one kind. -/
structure KindFacts where
  /-- Shape of the column. -/
  storage : Storage
  /-- Validation rule without the leading word on presence. -/
  rule : Text
  /-- Conversion by the model. -/
  cast : Option Cast
  /-- Component that edits the field. -/
  component : Component
  /-- Type of the input, where the component is a plain one. -/
  inputType : Option Text
  /-- How many values are chosen. -/
  choice : Choice
  /-- Type of the attribute in the page code. -/
  type : ValueType
deriving DecidableEq, Repr

namespace FieldKind

/-- The catalog entry of a kind. -/
def facts : FieldKind → KindFacts
  | text => ⟨.string 255, "string|max:255", none, .input, some "text", .none, .plain "string"⟩
  | textarea => ⟨.text, "string", none, .textarea, none, .none, .plain "string"⟩
  | select => ⟨.integer, "integer", some .integer, .select, none, .single, .plain "number"⟩
  | radio => ⟨.integer, "integer", some .integer, .radioGroup, none, .single, .plain "number"⟩
  | checkboxGroup => ⟨.json, "array", some .array, .checkbox, none, .multiple, .list "number"⟩
  | multiselect => ⟨.json, "array", some .array, .multiSelect, none, .multiple, .list "number"⟩
  | date => ⟨.date, "date", some .date, .input, some "date", .none, .plain "string"⟩
  | dateRange =>
    ⟨.json, "array", some .array, .input, some "date", .none, .plain "DateRangeValue"⟩
  | datetimeRange =>
    ⟨.json, "array", some .array, .input, some "datetime-local", .none, .plain "DateRangeValue"⟩
  | number => ⟨.integer, "integer", some .integer, .input, some "number", .none, .plain "number"⟩
  | currency =>
    ⟨.decimal 12 2, "numeric|min:0", some .decimal, .input, some "number", .none, .plain "string"⟩
  | rating =>
    ⟨.unsignedTinyInteger, "integer|min:1|max:5", some .integer, .rating, none, .none,
      .plain "number"⟩
  | slider => ⟨.json, "array", some .array, .slider, none, .none, .list "number"⟩
  | switch => ⟨.boolean, "boolean", some .boolean, .switch, none, .none, .plain "boolean"⟩
  | color => ⟨.string 20, "string|max:20", none, .input, some "color", .none, .plain "string"⟩
  | richText => ⟨.longText, "string", none, .richTextEditor, none, .none, .plain "string"⟩
  | phone => ⟨.string 30, "string|max:30", none, .input, some "tel", .none, .plain "string"⟩
  | tags => ⟨.json, "array", some .array, .tagInput, none, .multiple, .list "string"⟩
  | mediaSingle =>
    ⟨.external, "file|max:10240", none, .input, some "file", .none, .nullable "MediaItem"⟩
  | mediaMultiple => ⟨.external, "array", none, .input, some "file", .none, .list "MediaItem"⟩

/-- The kinds in the order of the catalog. -/
def all : List FieldKind :=
  [text, textarea, select, radio, checkboxGroup, multiselect, date, dateRange, datetimeRange,
    number, currency, rating, slider, switch, color, richText, phone, tags, mediaSingle,
    mediaMultiple]

/-- The name under which a kind is declared and reported. -/
def name : FieldKind → Text
  | text => "text"
  | textarea => "textarea"
  | select => "select"
  | radio => "radio"
  | checkboxGroup => "checkbox-group"
  | multiselect => "multiselect"
  | date => "date"
  | dateRange => "date-range"
  | datetimeRange => "datetime-range"
  | number => "number"
  | currency => "currency"
  | rating => "rating"
  | slider => "slider"
  | switch => "switch"
  | color => "color"
  | richText => "rich-text"
  | phone => "phone"
  | tags => "tags"
  | mediaSingle => "media-single"
  | mediaMultiple => "media-multiple"

/-- Further names under which a kind is declared. -/
def aliases : FieldKind → List Text
  | text => ["textbox", "string"]
  | checkboxGroup => ["checkbox", "checkboxes"]
  | multiselect => ["multi-select"]
  | dateRange => ["daterange", "date_range"]
  | datetimeRange => ["datetimerange", "datetime_range"]
  | number => ["integer"]
  | currency => ["money", "decimal"]
  | switch => ["toggle", "boolean"]
  | richText => ["richtext", "rich_text", "editor"]
  | phone => ["tel"]
  | mediaSingle => ["media_single", "file", "image"]
  | mediaMultiple => ["media_multiple", "files", "images"]
  | _ => []

/-- The kind of a name or alias; the case of ASCII letters does not matter. -/
def ofText? (written : Text) : Option FieldKind :=
  all.find? fun kind => (kind.name :: kind.aliases).contains (Text.lowerAscii written)

/-- The kind of a declared type, whose surrounding blanks do not matter. -/
def lookup? (declared : Text) : Option FieldKind := ofText? (Text.trim declared)

/-- The kind with exactly this name. -/
def ofName? (written : Text) : Option FieldKind := Text.named? all name written

/-- The value is written to its column from the request. -/
def isFormWritable (kind : FieldKind) : Bool := kind.facts.storage != .external

/-- The value is picked from a list of options. -/
def isEnumerable (kind : FieldKind) : Bool := kind.facts.choice != .none && kind != .tags

/-- The value is searched by a part of it. -/
def isStringLike (kind : FieldKind) : Bool :=
  kind == .text || kind == .textarea || kind == .richText || kind == .phone || kind == .color

/-- The value is one or several uploaded files. -/
def isMedia (kind : FieldKind) : Bool := kind == .mediaSingle || kind == .mediaMultiple

/-- The value has a start and an end. -/
def isRange (kind : FieldKind) : Bool := kind == .dateRange || kind == .datetimeRange

/-- Every kind is in the catalog. -/
theorem mem_all (kind : FieldKind) : kind ∈ all := by cases kind <;> decide

end FieldKind

end Scaffold
