import Scaffold.Artifact
import Scaffold.Page.Listing

/-!
# Imports from the type module

The names that a page takes from the type module of its entity: the types of its values, and the
helpers and option lists that show or edit them.
-/
namespace Scaffold

/-- A name that a page imports. -/
inductive TypeImport where
  /-- A type. -/
  | type (name : Text)
  /-- A function or list. -/
  | value (name : Text)
deriving DecidableEq, Repr

namespace TypeImport

/-- The imported name. -/
def name : TypeImport → Text
  | type name => name
  | value name => name

/-- The name as it stands in the import. -/
def written : TypeImport → Text
  | type name => "type " ++ name
  | value name => name

end TypeImport

namespace Plan

/-- The option list of a filter by a fixed list of options. -/
def filterOptions? : Filter → Option Text
  | .options column => some (Code.optionsName column.name)
  | _ => none

/-- The helpers that show a column of the list. -/
def columnImports : TableColumn → List Text
  | .field column => column.viewImports
  | .relation _ => []

/-- The types that an artifact imports for its own values. -/
def ownTypes (plan : Plan) (artifact : Artifact) : List Text :=
  let model := plan.names.model
  match artifact with
  | .listPage => [model, model ++ "Filters", "Paginated"]
  | .createPage => [model ++ "FormData"]
  | .editPage => [model, model ++ "FormData"]
  | .detailDialog => [model]
  | .detailPage => [model]
  | _ => []

/-- The functions and lists that an artifact imports. -/
def usedValues (plan : Plan) (artifact : Artifact) : List Text :=
  match artifact with
  | .listPage =>
    plan.tableColumns.flatMap columnImports ++ plan.filters.filterMap filterOptions?
  | .createPage => plan.staticFields.map fun field => Code.optionsName field.name
  | .editPage => plan.staticFields.map fun field => Code.optionsName field.name
  | .detailDialog => plan.fields.flatMap (·.viewImports)
  | .detailPage => plan.fields.flatMap (·.viewImports)
  | _ => []

/-- The names that an artifact imports from the type module. -/
def typeImports (plan : Plan) (artifact : Artifact) : List TypeImport :=
  (plan.ownTypes artifact ++ (if plan.recordLists.isEmpty then [] else [recordOption])).map .type ++
    (firstOccurrences (plan.usedValues artifact)).map .value

end Plan

end Scaffold
