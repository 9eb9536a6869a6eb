import Scaffold.Backend.ClassName
import Scaffold.Code.Layout
import Scaffold.Project.Path
import Scaffold.Registry.Entry
import Scaffold.Text.Quoted

/-!
# Wiring a module into a project

The entries that a module adds to the shared files: its routes, its permissions, its place in the
navigation, the making of records when the database is seeded, and on every model that it belongs
to a relationship in the other direction.
-/
namespace Scaffold

namespace Anchor

/-- Above the last lines of the routes, which load further route files. -/
def routes : Anchor :=
  { pattern := "(?m)^[ \\t]*require\\s+__DIR__\\s*\\.\\s*'/(?:settings|auth)\\.php';"
    placement := .before, nested := false, last := false }

/-- At the front of the list of permissions. -/
def permissions : Anchor :=
  { pattern := "\\$permissions\\s*=\\s*\\[", placement := .after, nested := true, last := false }

/-- At the front of the main menu. -/
def mainMenu : Anchor :=
  { pattern := "const mainNavItems(?:\\s*:\\s*NavItem\\[\\])?\\s*=\\s*\\["
    placement := .after, nested := true, last := false }

/-- At the front of the setup menu. -/
def setupMenu : Anchor :=
  { pattern := "const setupNavItems(?:\\s*:\\s*NavItem\\[\\])?\\s*=\\s*\\["
    placement := .after, nested := true, last := false }

/-- Below the import of icons. -/
def icons : Anchor :=
  { pattern := "import\\s*\\\x7b[^\x7d]*\\\x7d\\s*from\\s*'lucide-react';"
    placement := .after, nested := false, last := false }

/-- At the front of the method that seeds the database. -/
def seeder : Anchor :=
  { pattern := "public function run\\(\\)(?:\\s*:\\s*void)?\\s*\\\x7b"
    placement := .after, nested := true, last := false }

/-- Above the end of the last class. -/
def classEnd : Anchor :=
  { pattern := "(?m)^\\\x7d[ \\t]*$", placement := .before, nested := true, last := true }

end Anchor

/-- A relationship in the other direction, for the model that a relationship leads to. -/
structure ReverseAccessor where
  /-- The model that gets the accessor. -/
  target : Text
  /-- The accessor. -/
  entry : Entry
deriving DecidableEq, Repr

namespace ReverseAccessor

/-- The accessor as an entry of the file of its model. -/
def registration (accessor : ReverseAccessor) (file : FilePath) : Registration :=
  { file, region := "relations", anchor := .classEnd, entry := accessor.entry }

end ReverseAccessor

namespace Plan

/-- The middleware that all routes of a module pass through. -/
def routeMiddleware : Text := "Route::middleware(['auth', 'verified'])"

/-- The routes of the pages. -/
def resourceRoute (plan : Plan) (layout : Layout) : Registration :=
  let route := plan.names.route
  let exception : Text := if plan.viewMode = some .page then [] else "->except(['show'])"
  { file := layout.routes
    region := "routes"
    anchor := .routes
    entry :=
      { key := route
        lines :=
          [routeMiddleware ++ "->resource(" ++ Text.quote route ++ ", \\" ++ plan.controllerClass ++
            "::class)" ++ exception ++ ";"]
        presence := .occurs ("resource(" ++ Text.quote route) } }

/-- A path without the slashes in front. -/
def relativePath (path : Text) : Text := Text.dropStartWhile path (· == '/')

/-- The route of a cascade. -/
def cascadeRoute (plan : Plan) (layout : Layout) (dependency : Dependency) : Registration :=
  let cascade := dependency.cascade
  let name := Text.quote cascade.routeName
  { file := layout.routes
    region := "routes"
    anchor := .routes
    entry :=
      { key := cascade.routeName
        lines :=
          [routeMiddleware ++ "->get(" ++ Text.quote (relativePath cascade.routePath) ++ ", [\\" ++
            plan.controllerClass ++ "::class, " ++ Text.quote cascade.endpoint ++ "])->name(" ++
            name ++ ");"]
        presence := .occurs ("name(" ++ name ++ ")") } }

/-- The first permission, by which all are recognised. -/
def firstPermission (plan : Plan) : Text := plan.names.route ++ ".manage"

/-- The permissions. -/
def permissionEntry (plan : Plan) (layout : Layout) : Registration :=
  { file := layout.permissionSeeder
    region := "permissions"
    anchor := .permissions
    entry :=
      { key := plan.names.route
        lines := plan.permissionKeys.map fun key => Text.quote key ++ ","
        presence := .occurs (Text.quote plan.firstPermission) } }

/-- The icon in the navigation. -/
def menuIcon (plan : Plan) : Text := plan.systemSetup.getD plan.icon

/-- The import of the icon. -/
def iconEntry (plan : Plan) (layout : Layout) : Registration :=
  { file := layout.navigation
    region := "navigation-icons"
    anchor := .icons
    entry :=
      { key := plan.menuIcon
        lines := ["import " ++ Code.record [plan.menuIcon] ++ " from 'lucide-react';"]
        presence := .word plan.menuIcon } }

/-- The address of the list page. -/
def listAddress (plan : Plan) : Text := '/' :: plan.names.route

/-- The members of the item in a menu. -/
def menuMembers (plan : Plan) : List Text :=
  ["title: " ++ Text.quote plan.names.labelPlural, "href: " ++ Text.quote plan.listAddress,
    "icon: " ++ plan.menuIcon]

/-- The item in a menu: the setup menu if the module belongs there, or the main one. -/
def menuEntry (plan : Plan) (layout : Layout) : Registration :=
  { file := layout.navigation
    region := if plan.systemSetup.isSome then "setup-navigation" else "navigation"
    anchor := if plan.systemSetup.isSome then .setupMenu else .mainMenu
    entry :=
      { key := plan.listAddress
        lines := [Code.record plan.menuMembers ++ ","]
        presence := .occurs (Text.quote plan.listAddress) } }

/-- The making of records when the database is seeded. -/
def seederEntry (plan : Plan) (layout : Layout) : Registration :=
  { file := layout.databaseSeeder
    region := "seeders"
    anchor := .seeder
    entry :=
      { key := plan.names.model
        lines := ['\\' :: plan.modelClass ++ "::factory()->count(10)->create();"]
        presence := .word (plan.names.model ++ "::factory(") } }

/-- The entries in the files that all modules share. -/
def sharedEntries (plan : Plan) (layout : Layout) : List Registration :=
  plan.resourceRoute layout :: plan.dependencies.map (plan.cascadeRoute layout) ++
    [plan.permissionEntry layout, plan.iconEntry layout, plan.menuEntry layout,
      plan.seederEntry layout]

/-- The method of an accessor. Where several relationships lead to one model, the name of the
relationship stands in front. -/
def accessorMethod (plan : Plan) (relationship : Relationship) : Text :=
  if (plan.reverseRelations.filter (·.target == relationship.target)).length > 1 then
    Text.lowerCamelCase relationship.name ++ Text.upperCamelCase plan.names.modelPlural
  else plan.names.records

/-- The accessor of a relationship. -/
def accessor (plan : Plan) (relationship : Relationship) : ReverseAccessor :=
  let method := plan.accessorMethod relationship
  { target := relationship.target
    entry :=
      { key := plan.names.model ++ '.' :: method
        lines :=
          Code.body
            ("public function " ++ method ++
              "(): \\Illuminate\\Database\\Eloquent\\Relations\\HasMany")
            ["return $this->hasMany(\\" ++ plan.modelClass ++ "::class, " ++
              Text.quote relationship.foreignKey ++ ");"]
        presence := .occurs ("function " ++ method ++ "(") } }

/-- The accessors of all models that the module belongs to. -/
def accessors (plan : Plan) : List ReverseAccessor := plan.reverseRelations.map plan.accessor

/-- The file of a model. -/
def modelFile (model : Text) : Text := model ++ ".php"

/-- Where the file of a related model is looked for, in order: beside the generated model, then
among the models of the application. -/
def modelCandidates (plan : Plan) (layout : Layout) (model : Text) : List FilePath :=
  let beside := FilePath.join (FilePath.join plan.sourceRoot "Models") (modelFile model)
  let shared := FilePath.join layout.models (modelFile model)
  if Text.startsWith (plan.relatedClass model) "App\\" || FilePath.same beside shared then [shared]
  else [beside, shared]

end Plan

end Scaffold
