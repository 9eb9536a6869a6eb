import Scaffold.Plan.Basic
import Scaffold.Project.Path

/-!
# Artifacts

The files that a generation makes for one entity, and where they lie in a project.
-/
namespace Scaffold

/-- A generated file. -/
inductive Artifact where
  /-- Creates the table. -/
  | migration
  /-- The model class. -/
  | model
  /-- The controller class. -/
  | controller
  /-- The request that creates a record. -/
  | storeRequest
  /-- The request that changes a record. -/
  | updateRequest
  /-- Makes up records. -/
  | factory
  /-- The list page. -/
  | listPage
  /-- The page with the form of a new record. -/
  | createPage
  /-- The page with the form of a record. -/
  | editPage
  /-- Types that the pages share. -/
  | types
  /-- The dialog that shows a record. -/
  | detailDialog
  /-- The page that shows a record. -/
  | detailPage
deriving DecidableEq, Repr

namespace Artifact

/-- All artifacts in the order in which they are generated. -/
def all : List Artifact :=
  [migration, model, controller, storeRequest, updateRequest, factory, listPage, createPage,
    editPage, types, detailDialog, detailPage]

/-- The name under which an artifact is reported. -/
def name : Artifact → Text
  | migration => "migration"
  | model => "model"
  | controller => "controller"
  | storeRequest => "store_request"
  | updateRequest => "update_request"
  | factory => "factory"
  | listPage => "index_page"
  | createPage => "create_page"
  | editPage => "edit_page"
  | types => "types"
  | detailDialog => "detail_modal"
  | detailPage => "detail_page"

/-- The artifact with exactly this name. -/
def ofName? (written : Text) : Option Artifact := Text.named? all name written

/-- The file that holds the template of an artifact. -/
def stubName : Artifact → Text
  | migration => "migration.php.stub"
  | model => "model.php.stub"
  | controller => "controller.php.stub"
  | storeRequest => "store_request.php.stub"
  | updateRequest => "update_request.php.stub"
  | factory => "factory.php.stub"
  | listPage => "index.tsx.stub"
  | createPage => "create.tsx.stub"
  | editPage => "edit.tsx.stub"
  | types => "types.ts.stub"
  | detailDialog => "detail_modal.tsx.stub"
  | detailPage => "detail_page.tsx.stub"

/-- The view of a single record that a plan asks for. -/
def detailOf (plan : Plan) : List Artifact :=
  match plan.viewMode with
  | some .modal => [detailDialog]
  | some .page => [detailPage]
  | none => []

/-- The artifacts of a plan in the order in which they are generated. -/
def ofPlan (plan : Plan) : List Artifact :=
  [migration, model, controller, storeRequest, updateRequest, factory, listPage, createPage,
    editPage, types] ++ detailOf plan

/-- The directory of the pages. -/
def pageDirectory (plan : Plan) : FilePath :=
  FilePath.join (FilePath.join plan.projectRoot "resources/js/pages") plan.names.route

/-- A path below a directory in the directory of the classes. -/
def sourcePath (plan : Plan) (directory name : Text) : FilePath :=
  FilePath.join (FilePath.join plan.sourceRoot directory) name

/-- A path below a directory beside that of the classes. -/
def projectPath (plan : Plan) (directory name : Text) : FilePath :=
  FilePath.join (FilePath.join plan.projectRoot directory) name

/-- The path of an artifact below the root of the project. That of a migration lacks the time at
the front of its name. -/
def path (plan : Plan) : Artifact → FilePath
  | migration => projectPath plan "database/migrations" ("create_" ++ plan.names.table ++ "_table.php")
  | model => sourcePath plan "Models" (plan.names.model ++ ".php")
  | controller => sourcePath plan "Http/Controllers" (plan.names.model ++ "Controller.php")
  | storeRequest => sourcePath plan "Http/Requests" ("Store" ++ plan.names.model ++ "Request.php")
  | updateRequest => sourcePath plan "Http/Requests" ("Update" ++ plan.names.model ++ "Request.php")
  | factory => projectPath plan "database/factories" (plan.names.model ++ "Factory.php")
  | listPage => FilePath.join (pageDirectory plan) "index.tsx"
  | createPage => FilePath.join (pageDirectory plan) "create.tsx"
  | editPage => FilePath.join (pageDirectory plan) "edit.tsx"
  | types => projectPath plan "resources/js/types" (plan.names.routeSingular ++ ".ts")
  | detailDialog =>
    FilePath.join (FilePath.join (pageDirectory plan) "components")
      (plan.names.routeSingular ++ "-detail-modal.tsx")
  | detailPage => FilePath.join (pageDirectory plan) "show.tsx"

end Artifact

end Scaffold
