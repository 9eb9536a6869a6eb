import Scaffold.Names
import Scaffold.Plan.Options
import Scaffold.Schema.Diagnostic
import Scaffold.Schema.Field

/-!
# Plans

A plan is everything that the generated files and the shared files of a project need to know about
one entity. It is made once from the options and not changed afterwards.
-/
namespace Scaffold

/-- The column of the user who created a record; it is always there and never assigned from a
request. -/
def ownershipColumn : Text := "created_by"

/-- What a user may be permitted to do with the records of an entity. -/
def permissionActions : List Text :=
  ["manage", "manage-any", "manage-own", "view", "create", "edit", "delete"]

/-- The icon that is used when none is given. -/
def defaultIcon : Text := "LayoutGrid"

/-- The icon in the setup menu that is used when none is given. -/
def defaultSetupIcon : Text := "Settings"

/-- A package that holds the generated files. -/
structure PackageScope where
  /-- Name of its directory. -/
  name : Text
  /-- Name of its namespace. -/
  namespaceName : Text
deriving DecidableEq, Repr

/-- The package of a name in free text. -/
def PackageScope.ofName (name : Text) : PackageScope :=
  ⟨Text.kebabCase (Text.trim name), Text.upperCamelCase (Text.trim name)⟩

/-- The directory of a package below the root of the project. -/
def PackageScope.root (scope : PackageScope) : Text := "packages/" ++ scope.name

/-- The rules of one key of a request. -/
structure ValidationRule where
  /-- The key, or a key of its elements. -/
  key : Text
  /-- Rules with bars between them. -/
  rule : Text
deriving DecidableEq, Repr

/-- A column of the list page. -/
inductive TableColumn where
  /-- A field of the entity. -/
  | field (field : Field)
  /-- A field of a related record. -/
  | relation (projection : Projection)
deriving DecidableEq, Repr

namespace TableColumn

/-- The name by which a column is asked for. -/
def key : TableColumn → Text
  | .field column => column.name
  | .relation projection => projection.key

/-- The words above a column. -/
def label : TableColumn → Text
  | .field column => column.label
  | .relation projection => projection.label

end TableColumn

/-- How a search term is compared with a column. -/
inductive SearchMode where
  /-- The term is a part of the value. -/
  | like
  /-- The term is the value. -/
  | exact
  /-- The term is a member of the list. -/
  | jsonContains
deriving DecidableEq, Repr

/-- A searched field. -/
structure SearchColumn where
  /-- The field. -/
  field : Field
  /-- How the term is compared with it. -/
  mode : SearchMode
deriving DecidableEq, Repr

/-- A filter of the list page. -/
inductive Filter where
  /-- By a field with a fixed list of options. -/
  | options (field : Field)
  /-- By a field whose options are records. -/
  | records (field : Field)
  /-- By the key of a relationship. -/
  | relation (relationship : Relationship)
deriving DecidableEq, Repr

namespace Filter

/-- The name of the filter in a request: the field or the key column. -/
def key : Filter → Text
  | .options field => field.name
  | .records field => field.name
  | .relation relationship => relationship.foreignKey

/-- The words shown for the filter. -/
def label : Filter → Text
  | .options field => field.label
  | .records field => field.label
  | .relation relationship => relationship.label

/-- The filtered column holds a list. -/
def isMultiple : Filter → Bool
  | .options field => field.isMultiple
  | .records field => field.isMultiple
  | .relation _ => false

end Filter

/-- What is known about one entity. -/
structure Plan where
  /-- The names of the entity. -/
  names : Names
  /-- Its fields. -/
  fields : List Field
  /-- Its relationships. -/
  relationships : List Relationship
  /-- Fields of related records that the list page shows. -/
  projections : List Projection
  /-- Which relationships depend on which. -/
  dependencies : List Dependency
  /-- Columns of the list page. -/
  tableColumns : List TableColumn
  /-- Columns that are assigned from a request. -/
  fillable : List Text
  /-- Columns that the model converts, with the conversion. -/
  casts : List (Text × Cast)
  /-- Rules of the requests. -/
  rules : List ValidationRule
  /-- Searched fields. -/
  searchable : List SearchColumn
  /-- Filters of the list page. -/
  filters : List Filter
  /-- Icon of the navigation entry. -/
  icon : Text
  /-- How a single record is shown. -/
  viewMode : Option ViewMode
  /-- Package that holds the files. -/
  package : Option PackageScope
  /-- Icon in the setup menu, if the entity stands there. -/
  systemSetup : Option Text
  /-- What was left out or changed. -/
  diagnostics : List Diagnostic
deriving DecidableEq, Repr

namespace Plan

/-- The namespace of the generated classes. -/
def namespaceName (plan : Plan) : Text :=
  match plan.package with
  | some scope => "Packages\\" ++ scope.namespaceName
  | none => "App"

/-- The directory of the generated classes. -/
def sourceRoot (plan : Plan) : Text :=
  match plan.package with
  | some scope => scope.root ++ "/src"
  | none => "app"

/-- The directory of the other generated files; the empty text is the root of the project. -/
def projectRoot (plan : Plan) : Text :=
  match plan.package with
  | some scope => scope.root
  | none => []

/-- The model with its namespace. -/
def modelClass (plan : Plan) : Text := plan.namespaceName ++ "\\Models\\" ++ plan.names.model

/-- The controller with its namespace. -/
def controllerClass (plan : Plan) : Text :=
  plan.namespaceName ++ "\\Http\\Controllers\\" ++ plan.names.model ++ "Controller"

/-- The keys of the permissions. -/
def permissionKeys (plan : Plan) : List Text :=
  permissionActions.map fun action => plan.names.route ++ '.' :: action

/-- The first field of a name. -/
def field? (plan : Plan) (name : Text) : Option Field := plan.fields.find? (·.name == name)

/-- A field has this name. -/
def declares (plan : Plan) (name : Text) : Bool := plan.fields.any (·.name == name)

/-- Relationships whose key column is added to the columns of the fields. -/
def foreignKeys (plan : Plan) : List Relationship :=
  plan.relationships.filter fun relationship =>
    relationship.ownsForeignKey && !plan.declares relationship.foreignKey

/-- Relationships that other models get an accessor for. -/
def reverseRelations (plan : Plan) : List Relationship :=
  plan.relationships.filter fun relationship =>
    relationship.ownsForeignKey && !relationship.isSelfReference plan.names.model

/-- Fields whose options are records. -/
def dynamicFields (plan : Plan) : List Field := plan.fields.filter (·.hasRecords)

/-- Fields with a fixed list of options. -/
def staticFields (plan : Plan) : List Field := plan.fields.filter (·.hasLabels)

/-- Fields with uploaded files. -/
def mediaFields (plan : Plan) : List Field := plan.fields.filter (·.kind.isMedia)

/-- Some field has uploaded files. -/
def hasMedia (plan : Plan) : Bool := plan.fields.any (·.kind.isMedia)

/-- The list page has filters. -/
def hasFilters (plan : Plan) : Bool := !plan.filters.isEmpty

/-- The searched field that names the search box. -/
def primarySearch? (plan : Plan) : Option SearchColumn := plan.searchable.head?

/-- Relationships chosen on the forms. -/
def formRelations (plan : Plan) : List Relationship :=
  plan.foreignKeys.filter fun relationship => !relationship.isSelfReference plan.names.model

end Plan

end Scaffold
