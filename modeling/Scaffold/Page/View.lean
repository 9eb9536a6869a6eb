import Scaffold.Code.Markup
import Scaffold.Page.Declaration

/-!
# Views of values

How the value of a field is shown, in a cell of the list page or in a card of the detail view, and
which helpers of the type module are imported to show it.
-/
namespace Scaffold

/-- Where a value is shown. -/
inductive Place where
  /-- In a cell of the list page, where room is short. -/
  | cell
  /-- In a card of the detail view. -/
  | card
deriving DecidableEq, Repr

/-- How one member of a list is labelled. -/
inductive ItemLabel where
  /-- By a field of the record with its key in a record list. -/
  | record (list shown : Text)
  /-- By the label of a stored position. -/
  | position (function : Text)
  /-- By itself. -/
  | itself
deriving DecidableEq, Repr

/-- How the value of a field is shown. -/
inductive FieldView where
  /-- A badge for every member of a list. -/
  | badges (label : ItemLabel)
  /-- A field of the record with the key in a record list. -/
  | record (list shown : Text)
  /-- A badge with the label of a stored position. -/
  | badge (function : Text)
  /-- A value of a kind without options; an image may be shown itself. -/
  | value (kind : FieldKind) (preview : Bool)
deriving DecidableEq, Repr

namespace View

open Markup

/-- The badges in a list cell that are shown one by one. -/
def badgeLimit : Text := "2"

/-- The label of a listed record. -/
def recordCall (list key shown : Text) : Text :=
  recordLabel ++ '(' :: list ++ ", " ++ key ++ ", " ++ Text.quote shown ++ ")"

/-- The label of one member of a list. -/
def itemCode : ItemLabel → Text
  | .record list shown => recordCall list "item" shown
  | .position function => function ++ "(item)"
  | .itself => "item"

/-- A badge for every member of a list. -/
def badgeItems (items label : Text) : List Text :=
  each items "item" <|
    element "Badge" [.code "key" "item", .text "variant" "outline"] [Text.braced label]

/-- The badges of a list; a cell shows the first ones and the number of the others. -/
def badgeLines (value label : Text) (place : Place) : List Text :=
  let items := '(' :: value ++ " ?? [])"
  element "div" [classes "flex flex-wrap gap-1"] <|
    match place with
    | .card => badgeItems items label
    | .cell =>
      badgeItems (items ++ ".slice(0, " ++ badgeLimit ++ ")") label ++
        [Text.braced (items ++ ".length > " ++ badgeLimit ++ " && " ++
          inline "Badge" [.text "variant" "secondary"]
            ('+' :: Text.braced (items ++ ".length - " ++ badgeLimit)))]

/-- A link that opens in a new window. -/
def outsideLink (address : Text) (content : List Text) : List Text :=
  element "a"
    [.code "href" address, .text "target" "_blank", .text "rel" "noreferrer", classes "underline"]
    content

/-- Lines for an uploaded file, or a dash where there is none. -/
def fileOrDash (value : Text) (lines : List Text) : List Text :=
  Code.block ('\x7b' :: value ++ " ? (") lines ") : (" ++ Code.deeper ["'-'"] ++
    [")\x7d".toList]

/-- An uploaded image with the classes of its size. -/
def imageLine (value size : Text) : Text :=
  empty "img"
    [.code "src" (value ++ ".url"), .code "alt" (value ++ ".name"),
      classes (size ++ " rounded object-cover")]

/-- A single uploaded file. -/
def fileLines (value : Text) (preview : Bool) (place : Place) : List Text :=
  let size : Text := match place with
    | .cell => "size-10"
    | .card => "max-h-48"
  fileOrDash value <|
    if preview then [imageLine value size]
    else outsideLink (value ++ ".url") [Text.braced (value ++ ".name")]

/-- Several uploaded files. -/
def fileListLines (value : Text) : List Text :=
  element "ul" [classes "flex flex-col gap-1"] <|
    each value "media" <|
      element "li" [.code "key" "media.id"] <|
        outsideLink "media.url" [Text.braced "media.name"]

/-- A colour with its name. -/
def colorLines (value : Text) : List Text :=
  element "span" [classes "inline-flex items-center gap-2"]
    [empty "span" [classes "size-4 rounded border",
        .code "style" (Code.record ["backgroundColor: " ++ value ++ " ?? undefined"])],
      Text.braced value]

/-- A value, or a dash where there is none. -/
def valueOrDash (value : Text) : Text := Text.braced (value ++ " ?? '-'")

/-- A start and an end. -/
def rangeCode (value : Text) : Text :=
  Text.braced (value ++ " ? `$" ++ Text.braced (value ++ ".start ?? ''") ++ " - $" ++
    Text.braced (value ++ ".end ?? ''") ++ "` : '-'")

/-- Formatted text: without its tags in a cell, and as it is in a card. -/
def richTextLine (value : Text) (place : Place) : Text :=
  match place with
  | .cell =>
    inline "span" [classes "line-clamp-1"] (Text.braced (value ++ "?.replace(/<[^>]+>/g, '') ?? ''"))
  | .card =>
    empty "div" [classes "prose prose-sm",
      .code "dangerouslySetInnerHTML" (Code.record ["__html: " ++ value ++ " ?? ''"])]

/-- A value of a kind without options. -/
def kindLines (value : Text) (preview : Bool) (place : Place) (kind : FieldKind) : List Text :=
  match kind, place with
  | .switch, _ => [Text.braced (value ++ " ? 'Yes' : 'No'")]
  | .color, _ => colorLines value
  | .slider, _ => [Text.braced (value ++ "?.join(' - ') ?? '-'")]
  | .dateRange, _ => [rangeCode value]
  | .datetimeRange, _ => [rangeCode value]
  | .rating, _ => [Text.braced (value ++ " ? '★'.repeat(" ++ value ++ ") : '-'")]
  | .richText, _ => [richTextLine value place]
  | .textarea, .cell =>
    [inline "span" [classes "line-clamp-1 max-w-xs"] (Text.braced value)]
  | .mediaSingle, _ => fileLines value preview place
  | .mediaMultiple, .cell => [Text.braced (value ++ ".length") ++ " files"]
  | .mediaMultiple, .card => fileListLines value
  | _, _ => [valueOrDash value]

end View

namespace FieldView

/-- A view in code, for a value and a place. -/
def lines (shown : Text) (place : Place) : FieldView → List Text
  | badges label => View.badgeLines shown (View.itemCode label) place
  | record list field => [Text.braced (View.recordCall list shown field)]
  | badge function =>
    [Markup.inline "Badge" [.text "variant" "outline"]
      (Text.braced (function ++ '(' :: shown ++ ")"))]
  | value kind preview => View.kindLines shown preview place kind

end FieldView

namespace Field

/-- How one member of the field's list is labelled. -/
def itemLabel (field : Field) : ItemLabel :=
  match field.options with
  | .records _ shown => .record (Code.optionsName field.name) shown
  | .labels _ => .position (Code.labelFunction field.name)
  | .none => .itself

/-- How the value of a field is shown. -/
def view (field : Field) : FieldView :=
  if field.isMultiple then .badges field.itemLabel
  else match field.options with
    | .records _ shown => .record (Code.optionsName field.name) shown
    | .labels _ => .badge (Code.labelFunction field.name)
    | .none => .value field.kind field.flags.showPreview

/-- The value of the field of a record, in code. -/
def viewLines (field : Field) (record : Text) (place : Place) : List Text :=
  field.view.lines (record ++ '.' :: field.name) place

/-- Showing the field needs badges. -/
def usesBadge (field : Field) : Bool := field.hasLabels || field.isMultiple

/-- The helpers of the type module that are imported to show the field. -/
def viewImports (field : Field) : List Text :=
  match field.options with
  | .labels _ => [Code.labelFunction field.name]
  | .records _ _ => [recordLabel]
  | .none => []

end Field

namespace Projection

/-- A field of a related record, in code. -/
def view (projection : Projection) (record : Text) : Text :=
  Text.braced (record ++ '.' :: Text.snakeCase projection.relation ++ "?." ++ projection.field ++
    " ?? '-'")

end Projection

end Scaffold
