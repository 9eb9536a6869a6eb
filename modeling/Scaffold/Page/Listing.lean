import Scaffold.Page.Detail

/-!
# List page

The list of the records of an entity: its columns, its search box, and its filters with the button
that shows them. Without filters there is no state for them.
-/
namespace Scaffold

namespace Filter

open Markup

/-- The choices of a filter. -/
def choices (plan : Plan) : Filter → ChoiceList
  | .options column => ⟨Code.optionsName column.name, none⟩
  | .records column =>
    ⟨Code.optionsName column.name, some ((column.source?.map (·.2)).getD Plan.defaultShown)⟩
  | .relation relationship =>
    let prop := Code.optionsName relationship.name
    ⟨prop, some (((plan.recordLists.find? (·.prop == prop)).map (·.shown)).getD
      Plan.defaultShown)⟩

/-- Applies filters under their keys. -/
def applyCall (members : List Text) : Text := "applyFilters(" ++ Code.record members ++ ")"

/-- The control of a filter. -/
def lines (plan : Plan) (filter : Filter) : List Text :=
  element "Select"
    [.code "value" ("filters." ++ filter.key ++ " ?? ''"),
      .code "onValueChange" ("(value) => " ++ applyCall [filter.key ++ ": value"])] <|
    element "SelectTrigger" [classes "w-48"]
        [empty "SelectValue" [.code "placeholder" (Text.quote filter.label)]] ++
      selectItems (filter.choices plan).code

end Filter

namespace Plan

open Markup

/-- The headings of the columns. -/
def headingLines (plan : Plan) : List Text :=
  plan.tableColumns.map fun column => inline "TableHead" [] column.label

/-- The content of a cell. -/
def cellContent (record : Text) : TableColumn → Text
  | .field column => Text.unlines (column.viewLines record .cell)
  | .relation projection => projection.view record

/-- The cells of a row. -/
def cellLines (plan : Plan) : List Text :=
  plan.tableColumns.map fun column => inline "TableCell" [] (cellContent plan.pageRecord column)

/-- The hint in the search box. -/
def searchHint (plan : Plan) : Text :=
  match plan.primarySearch? with
  | some column => "Search by " ++ Text.lower column.field.label ++ "..."
  | none => "Search " ++ Text.lower plan.names.labelPlural ++ "..."

/-- The expression of the number of active filters. -/
def activeFilters (plan : Plan) : Text :=
  "const activeFilterCount = " ++ Code.list (plan.filters.map fun filter => "filters." ++ filter.key) ++
    ".filter((value) => value !== undefined && value !== null && value !== '').length;"

/-- The state of the filters. -/
def filterStateLines (plan : Plan) : List Text :=
  if plan.hasFilters then
    ["const [showFilters, setShowFilters] = useState(false);", plan.activeFilters]
  else []

/-- The button that shows the filters, with the number of active ones. -/
def filterButtonLines (plan : Plan) : List Text :=
  if plan.hasFilters then
    element "Button"
      [.text "type" "button", .text "variant" "outline",
        .code "onClick" "() => setShowFilters(!showFilters)"]
      [empty "Filter" [classes "size-4"] ++ " Filters",
        Text.braced ("activeFilterCount > 0 && " ++
          inline "Badge" [.text "variant" "secondary"] (Text.braced "activeFilterCount"))]
  else []

/-- The button that clears the filters. -/
def clearButtonLines (plan : Plan) : List Text :=
  element "Button"
    [.text "type" "button", .text "variant" "ghost",
      .code "onClick" ("() => " ++
        Filter.applyCall (plan.filters.map fun filter => filter.key ++ ": undefined"))]
    [empty "X" [classes "size-4"] ++ " Clear"]

/-- The step by which lines inside two others are indented. -/
def twoSteps : Text := Code.step ++ Code.step

/-- The controls of the filters. -/
def filterControlLines (plan : Plan) : List Text :=
  if plan.hasFilters then
    "\x7bshowFilters && (".toList ::
      Code.deeper [opening "div" [classes "flex flex-wrap items-center gap-2"]] ++
      Text.indentLines twoSteps (Text.unlines (plan.filters.flatMap (Filter.lines plan))) ++
      Code.deeper (Code.deeper plan.clearButtonLines) ++
      Code.deeper [closing "div"] ++ [")\x7d".toList]
  else []

/-- The icons of the list page. -/
def listIcons (plan : Plan) : List Text :=
  Text.sortedDistinct <|
    ["Pencil".toList, "Plus".toList, "Search".toList, "Trash2".toList] ++
    (if plan.viewMode.isSome then ["Eye".toList] else []) ++
    (if plan.hasFilters then ["Filter".toList, "X".toList] else [])

/-- A column of the list shows badges. -/
def columnUsesBadge : TableColumn → Bool
  | .field column => column.usesBadge
  | .relation _ => false

/-- The imports of the list page. -/
def listImportLines (plan : Plan) : List Text :=
  (if plan.tableColumns.any columnUsesBadge || plan.hasFilters then [badgeImport] else []) ++
    (if plan.hasFilters then [importLine selectParts "@/components/ui/select"] else []) ++
    plan.dialogImportLines

end Plan

end Scaffold
