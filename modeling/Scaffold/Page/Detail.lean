import Scaffold.Page.Form
import Scaffold.Page.View

/-!
# Detail view

A single record, shown on a page of its own or in a dialog over the list page: a card for every
field and for every projection, and on the list page what opens the view.
-/
namespace Scaffold

namespace Plan

open Markup

/-- A card with the words shown for a value and the value. -/
def cardLines (label content : Text) : List Text :=
  [opening "div" [classes "rounded-lg border p-3"]] ++
    Code.deeper
      [inline "div" [classes "text-muted-foreground text-sm"] label,
        opening "div" [classes "font-medium"]] ++
    Text.indentLines (Code.step ++ Code.step) content ++
    Code.deeper [closing "div"] ++ [closing "div"]

/-- The cards of a record. -/
def detailCardLines (plan : Plan) : List Text :=
  (plan.fields.flatMap fun field =>
    cardLines field.label (Text.unlines (field.viewLines plan.pageRecord .card))) ++
  plan.projections.flatMap fun projection =>
    cardLines projection.label (projection.view plan.pageRecord)

/-- The import of badges. -/
def badgeImport : Text := importLine ["Badge"] "@/components/ui/badge"

/-- The imports of the detail view. -/
def detailImportLines (plan : Plan) : List Text :=
  if plan.fields.any (·.usesBadge) then [badgeImport] else []

/-- The state of the dialog: the record that it shows. -/
def dialogStateLines (plan : Plan) : List Text :=
  if plan.viewMode = some .modal then
    ["const [selected, setSelected] = useState<" ++ plan.names.model ++ " | null>(null);"]
  else []

/-- The icon that stands for looking at a record. -/
def eyeIcon : Text := empty "Eye" [classes "size-4"]

/-- The button that opens the detail view. -/
def detailButtonLines (plan : Plan) : List Text :=
  let record := plan.pageRecord
  let attributes : List Attribute := [.text "variant" "ghost", .text "size" "icon"]
  match plan.viewMode with
  | some .modal =>
    element "Button" (attributes ++ [.code "onClick" ("() => setSelected(" ++ record ++ ")")])
      [eyeIcon]
  | some .page =>
    element "Button" (attributes ++ [.flag "asChild"]) <|
      element "Link"
        [.code "href" ("`/" ++ plan.names.route ++ "/$" ++ Text.braced (record ++ ".id") ++ "`")]
        [eyeIcon]
  | none => []

/-- The component of the dialog. -/
def dialogName (plan : Plan) : Text := plan.names.model ++ "DetailModal"

/-- The dialog on the list page. -/
def dialogLines (plan : Plan) : List Text :=
  if plan.viewMode = some .modal then
    [empty plan.dialogName <|
      [.code plan.pageRecord "selected", .code "onClose" "() => setSelected(null)"] ++
        plan.recordProps.map fun prop => .code prop prop]
  else []

/-- The import of the dialog. -/
def dialogImportLines (plan : Plan) : List Text :=
  if plan.viewMode = some .modal then
    ["import " ++ plan.dialogName ++ " from " ++
      Text.quote ("./components/" ++ plan.names.routeSingular ++ "-detail-modal") ++ ";"]
  else []

end Plan

end Scaffold
