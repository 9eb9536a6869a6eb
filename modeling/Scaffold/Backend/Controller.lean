import Scaffold.Backend.ClassName
import Scaffold.Code.Layout
import Scaffold.Page.Records

/-!
# Controller

The parts of the controller class: how the list is searched and filtered, how uploaded files are
stored, which record lists the pages receive, and the endpoints of cascades.
-/
namespace Scaffold

namespace Controller

/-- A query for records of a model in the order of the field that shows them, behind the
conditions on them. -/
def recordQuery (model conditions shown : Text) : Text :=
  model ++ "::query()" ++ conditions ++ "->orderBy(" ++ Text.quote shown ++ ")->get(['id', " ++
    Text.quote shown ++ "])"

/-- The condition that a column has a value. -/
def whereEquals (column value : Text) : Text :=
  "->where(" ++ Text.quote column ++ ", " ++ value ++ ")"

/-- The method of a search condition and its arguments. -/
def searchCall (column : SearchColumn) : Text × Text :=
  let name := Text.quote column.field.name
  match column.mode with
  | .like => ("where", name ++ ", 'like', \"%\x7b$search\x7d%\"")
  | .exact => ("where", name ++ ", $search")
  | .jsonContains =>
    ("whereJsonContains",
      name ++ (if column.field.kind = .tags then ", $search" else ", (int) $search"))

/-- The call of a search condition. -/
def firstCondition (column : SearchColumn) : Text :=
  let (method, arguments) := searchCall column
  "$query->" ++ method ++ '(' :: arguments ++ ")"

/-- The call of a search condition behind others, of which one must hold. -/
def furtherCondition (column : SearchColumn) : Text :=
  let (method, arguments) := searchCall column
  "->or" ++ Text.capitalized method ++ '(' :: arguments ++ ")"

/-- Lines of one statement, of which the last is ended. -/
def ended : List Text → List Text
  | [] => []
  | [last] => [last ++ ";"]
  | line :: next :: rest => line :: ended (next :: rest)

/-- The search conditions, of which one must hold. -/
def searchConditions : List SearchColumn → List Text
  | [] => []
  | first :: rest => ended (firstCondition first :: Code.deeper (rest.map furtherCondition))

/-- The condition of a filter. -/
def filterLines (filter : Filter) : List Text :=
  let key := Text.quote filter.key
  let method : Text := if filter.isMultiple then "whereJsonContains" else "where"
  Code.braces ("if ($request->filled(" ++ key ++ "))")
    ["$query->" ++ method ++ '(' :: key ++ ", $request->integer(" ++ key ++ "));"]

/-- Storing the uploaded files of a field in a record. A single file replaces the stored one where
there may be one already. -/
def mediaLines (record : Text) (replacing : Bool) (field : Field) : List Text :=
  let key := Text.quote field.name
  let variableName : Text := '$' :: record
  if field.kind = .mediaSingle then
    Code.braces ("if ($request->hasFile(" ++ key ++ "))") <|
      (if replacing then [variableName ++ "->clearMediaCollection(" ++ key ++ ");"] else []) ++
      [variableName ++ "->addMediaFromRequest(" ++ key ++ ")->toMediaCollection(" ++ key ++ ");"]
  else
    Code.braces ("foreach ($request->file(" ++ key ++ ", []) as $file)")
      [variableName ++ "->addMedia($file)->toMediaCollection(" ++ key ++ ");"]

/-- The query of a record list. -/
def listQuery (records : RecordList) : Text := recordQuery records.model [] records.shown

/-- The entry of a record list. A dependent list is whole where all records are asked for, and
otherwise holds what suits the parent of the record at hand. -/
def listLines (record : Text) (records : RecordList) : List Text :=
  let prop := Text.quote records.prop
  match records.dependency with
  | none => [prop ++ " => " ++ listQuery records ++ ","]
  | some dependency =>
    let parent := '$' :: record ++ "->" ++ dependency.parent.foreignKey
    Code.block (prop ++ " => match (true) \x7b")
      ["$all => " ++ listQuery records ++ ",",
        '$' :: record ++ " !== null => " ++
          recordQuery records.model (whereEquals dependency.cascade.childParentColumn parent)
            records.shown ++ ",",
        "default => [],"]
      "\x7d,"

/-- An endpoint that lists the children of a parent. -/
structure Endpoint where
  /-- Name of the method. -/
  method : Text
  /-- Name of the parameter that holds the parent. -/
  parameter : Text
  /-- Model of the children. -/
  model : Text
  /-- Column of the children that holds the parent. -/
  column : Text
  /-- Field that shows a child. -/
  shown : Text
deriving DecidableEq, Repr

/-- The endpoint in code. -/
def Endpoint.lines (endpoint : Endpoint) : List Text :=
  let parameter : Text := '$' :: endpoint.parameter
  Code.body ("public function " ++ endpoint.method ++ "(int " ++ parameter ++ "): JsonResponse") <|
    Code.block "return response()->json("
      [recordQuery endpoint.model (whereEquals endpoint.column parameter) endpoint.shown] ");"

end Controller

namespace Plan

/-- The classes that every controller uses. -/
def commonControllerUses (plan : Plan) : List Text :=
  ["App\\Http\\Controllers\\Controller", plan.modelClass,
    plan.requestNamespace ++ "\\Store" ++ plan.names.model ++ "Request",
    plan.requestNamespace ++ "\\Update" ++ plan.names.model ++ "Request",
    "Illuminate\\Http\\RedirectResponse", "Illuminate\\Http\\Request", "Inertia\\Inertia",
    "Inertia\\Response"]

/-- The classes that the controller uses. -/
def controllerUses (plan : Plan) : List Text :=
  plan.commonControllerUses ++
    (if plan.dependencies.isEmpty then [] else ["Illuminate\\Http\\JsonResponse".toList]) ++
    plan.recordLists.map fun records => plan.relatedClass records.model

/-- The imports of the controller. -/
def controllerImports (plan : Plan) : List Text :=
  ClassName.importLines plan.controllerNamespace plan.controllerUses

/-- The relationship methods that the list and detail pages need. -/
def loadedRelations (plan : Plan) : List Text :=
  firstOccurrences (plan.projections.map fun projection => Text.lowerCamelCase projection.relation)

/-- The relations loaded with the list. -/
def eagerLoads (plan : Plan) : Text :=
  if plan.loadedRelations.isEmpty then []
  else "->with([" ++ Text.quoteList plan.loadedRelations ++ "])"

/-- The search of the list. -/
def searchLines (plan : Plan) : List Text :=
  if plan.searchable.isEmpty then []
  else
    Code.below <| Code.braces "if ($search = trim((string) $request->input('search')))" <|
      Code.block "$query->where(function ($query) use ($search) \x7b"
        (Controller.searchConditions plan.searchable) "\x7d);"

/-- The filters of the list. -/
def filterLines (plan : Plan) : List Text :=
  Code.below (plan.filters.flatMap Controller.filterLines)

/-- The request keys of the search and the filters. -/
def filterKeys (plan : Plan) : Text := Text.quoteList ("search" :: plan.filters.map (·.key))

/-- The request keys of uploaded files. -/
def mediaKeys (plan : Plan) : Text := Text.quoteList (plan.mediaFields.map (·.name))

/-- Storing the uploaded files of a record. -/
def mediaLines (plan : Plan) (replacing : Bool) : List Text :=
  Code.below (plan.mediaFields.flatMap (Controller.mediaLines plan.names.record replacing))

/-- The method of the detail page. -/
def showLines (plan : Plan) : List Text :=
  if plan.viewMode = some .page then
    let record := plan.names.record
    let loaded : Text :=
      if plan.loadedRelations.isEmpty then []
      else "->load([" ++ Text.quoteList plan.loadedRelations ++ "])"
    Code.below <|
      Code.body ("public function show(" ++ plan.names.model ++ " $" ++ record ++ "): Response") <|
        Code.block ("return Inertia::render('" ++ plan.names.route ++ "/show', [")
          ['\'' :: record ++ "' => $" ++ record ++ loaded ++ ",", "...$this->options(all: true),"]
          "]);"
  else []

/-- The record lists that the controller hands to the pages. -/
def listLines (plan : Plan) : List Text :=
  plan.recordLists.flatMap (Controller.listLines plan.names.record)

/-- The endpoint of a dependency. -/
def endpoint (plan : Plan) (dependency : Dependency) : Controller.Endpoint :=
  { method := dependency.cascade.endpoint
    parameter := dependency.cascade.parentParam
    model := dependency.child.target
    column := dependency.cascade.childParentColumn
    shown := plan.shownField dependency.child }

/-- The endpoints of the controller. -/
def endpoints (plan : Plan) : List Controller.Endpoint := plan.dependencies.map plan.endpoint

/-- The endpoints in code. -/
def endpointLines (plan : Plan) : List Text :=
  plan.endpoints.flatMap fun endpoint => [] :: endpoint.lines

end Plan

end Scaffold
