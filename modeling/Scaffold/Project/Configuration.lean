import Scaffold.Project.Path
import Scaffold.Settings.Basic
import Scaffold.Settings.Toml

/-!
# Configuration of a project

A project keeps its settings in a file that lies in the directory where the program runs or in the
one above. Paths of the project's root and of its templates start from the directory of the file;
the paths of shared files start from the root of the project.
-/
namespace Scaffold

/-- What a configuration file says. -/
structure Configuration where
  /-- Root of the project. -/
  root : Option FilePath := none
  /-- Directory of templates. -/
  templates : Option FilePath := none
  /-- The routes. -/
  routes : Option FilePath := none
  /-- The seeder of the permissions. -/
  permissionSeeder : Option FilePath := none
  /-- The navigation menus. -/
  navigation : Option FilePath := none
  /-- The seeder of the database. -/
  databaseSeeder : Option FilePath := none
  /-- The directory of the models. -/
  models : Option FilePath := none
  /-- Name of the way in which cascades are inferred. -/
  inference : Option Text := none
  /-- Name of the way in which a single record is shown. -/
  viewMode : Option Text := none
deriving DecidableEq, Repr

namespace Configuration

/-- The name of a configuration file. -/
def fileName : FilePath := "modforge.toml"

/-- The tables of a configuration file with their keys. -/
def tables : List (Text × List Text) :=
  [("project".toList, ["root"]),
    ("templates".toList, ["directory"]),
    ("paths".toList,
      ["routes", "permission_seeder", "navigation", "database_seeder", "models"]),
    ("generate".toList, ["inference", "view_mode"])]

/-- What a text says; none if it is not well formed. -/
def ofText? (text : Text) : Option Configuration :=
  (Toml.tables? tables text).map fun found =>
    { root := Toml.find? found "project" "root"
      templates := Toml.find? found "templates" "directory"
      routes := Toml.find? found "paths" "routes"
      permissionSeeder := Toml.find? found "paths" "permission_seeder"
      navigation := Toml.find? found "paths" "navigation"
      databaseSeeder := Toml.find? found "paths" "database_seeder"
      models := Toml.find? found "paths" "models"
      inference := Toml.find? found "generate" "inference"
      viewMode := Toml.find? found "generate" "view_mode" }

/-- The text of a new configuration file. -/
def template : Text :=
  Text.unlines
    ["# modforge project configuration",
      "",
      "[project]",
      "# Root of the Laravel project, relative to this file",
      "root = \".\"",
      "",
      "[templates]",
      "# Stub overrides, stubs missing here fall back to the built-in ones",
      "# directory = \"stubs/modforge\"",
      "",
      "[paths]",
      "routes = \"routes/web.php\"",
      "permission_seeder = \"database/seeders/PermissionSeeder.php\"",
      "navigation = \"resources/js/config/navigation.ts\"",
      "database_seeder = \"database/seeders/DatabaseSeeder.php\"",
      "models = \"app/Models\"",
      "",
      "[generate]",
      "# adjacent, containment or explicit",
      "inference = \"containment\"",
      "# view_mode = \"modal\"",
      ""]

end Configuration

/-- A configuration with the directory of its file. -/
structure LocatedConfiguration where
  /-- The directory. -/
  directory : FilePath
  /-- The configuration. -/
  configuration : Configuration
deriving DecidableEq, Repr

namespace LocatedConfiguration

/-- The places of a configuration file, for a program that runs in a directory. -/
def places (directory : FilePath) : List FilePath :=
  (directory :: (FilePath.parent? directory).toList).map (FilePath.join · Configuration.fileName)

/-- The nearest configuration file. -/
def file? (tree : Tree) (start : Location) (directory : FilePath) : Option FilePath :=
  (places directory).find? (tree.isFile start)

/-- The nearest configuration, if there is one. -/
def load (tree : Tree) (start : Location) (directory : FilePath) :
    Except Failure (Option LocatedConfiguration) := do
  match file? tree start directory with
  | none => return none
  | some file =>
    match Configuration.ofText? (← Failure.onFile file (tree.readText start file)) with
    | some configuration =>
      return some ⟨(FilePath.parent? file).getD ['.'], configuration⟩
    | none => throw .configuration

/-- Where the shared files lie. -/
def layout (located : LocatedConfiguration) : Layout :=
  let configuration := located.configuration
  let standard := Layout.standard
  { routes := configuration.routes.getD standard.routes
    permissionSeeder := configuration.permissionSeeder.getD standard.permissionSeeder
    navigation := configuration.navigation.getD standard.navigation
    databaseSeeder := configuration.databaseSeeder.getD standard.databaseSeeder
    models := configuration.models.getD standard.models }

/-- The settings of a generation. -/
def settings (located : LocatedConfiguration) : Settings :=
  let configuration := located.configuration
  { root := configuration.root.map (FilePath.join located.directory)
    templates := configuration.templates.map (FilePath.join located.directory)
    inference := configuration.inference
    viewMode := configuration.viewMode }

end LocatedConfiguration

end Scaffold
