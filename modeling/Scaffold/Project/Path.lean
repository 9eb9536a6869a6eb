import Scaffold.Text.Order
import Scaffold.Text.Split

/-!
# Paths

A path is a text of names with slashes between them. Joining and cutting keep the text as it was
written; comparing looks at the components only, to which repeated slashes and points that stand
for the same directory do not count, except for a point at the front.

The files that all modules of a project share lie below its root, where its layout says.
-/
namespace Scaffold

/-- A path as it is written. -/
abbrev FilePath := Text

namespace FilePath

/-- The path begins at the root of the file system. -/
def isAbsolute (path : FilePath) : Bool := path.head? == some '/'

/-- A path below a directory. An absolute path stays what it is. -/
def join (directory path : FilePath) : FilePath :=
  if isAbsolute path || directory.isEmpty then path
  else if directory.getLast? == some '/' then directory ++ path
  else directory ++ '/' :: path

/-- What a path consists of. -/
inductive Component where
  /-- The root of the file system. -/
  | root
  /-- The directory that the path is looked up in. -/
  | here
  /-- The directory above. -/
  | above
  /-- An entry of a directory. -/
  | name (name : Text)
deriving DecidableEq, Repr

/-- The name between two slashes as a component, unless it means the same directory. -/
def component? (name : Text) : Option Component :=
  if name = [] || name = ['.'] then none
  else if name = ['.', '.'] then some .above
  else some (.name name)

/-- The components of a path. -/
def components (path : FilePath) : List Component :=
  let names := Text.splitOn '/' path
  let first : List Component :=
    if isAbsolute path then [.root] else if names.head? = some ['.'] then [.here] else []
  first ++ names.filterMap component?

/-- Two paths have the same components. -/
def same (first second : FilePath) : Bool := components first == components second

/-- Where a kind of component stands in the order of components. -/
def Component.rank : Component → Nat
  | .root => 0
  | .here => 1
  | .above => 2
  | .name _ => 3

/-- The first component comes strictly before the second. -/
def Component.precedes : Component → Component → Bool
  | .name first, .name second => Text.precedes first second
  | first, second => first.rank < second.rank

/-- The first list of components comes strictly before the second. -/
def componentsPrecede : List Component → List Component → Bool
  | [], [] => false
  | [], _ :: _ => true
  | _ :: _, [] => false
  | first :: firsts, second :: seconds =>
    if first = second then componentsPrecede firsts seconds else first.precedes second

/-- The first path comes strictly before the second in the order of their components. -/
def precedes (first second : FilePath) : Bool :=
  componentsPrecede (components first) (components second)

/-- The least of several paths. -/
def least? : List FilePath → Option FilePath
  | [] => none
  | path :: rest =>
    match least? rest with
    | none => some path
    | some other => some (if precedes other path then other else path)

/-- The name at the end of a path, if it ends with one. -/
def fileName? (path : FilePath) : Option Text :=
  match (components path).getLast? with
  | some (.name name) => some name
  | _ => none

/-- A reversed path without the slashes and points at its front that name nothing. -/
def dropIdle : Text → Text
  | '/' :: rest => dropIdle rest
  | '.' :: '/' :: rest => dropIdle rest
  | reversed => reversed

/-- The path without slashes and points for the same directory at its end. The point that a whole
path consists of stays, and so does the root. -/
def withoutIdleEnd (path : FilePath) : FilePath :=
  match (dropIdle path.reverse).reverse with
  | [] => if isAbsolute path then ['/'] else []
  | kept => kept

/-- The path without its last component, if it has one besides the root. -/
def parent? (path : FilePath) : Option FilePath :=
  match (components path).getLast? with
  | none => none
  | some .root => none
  | some .here => some []
  | some _ =>
    let kept := withoutIdleEnd path
    let directory := (kept.reverse.dropWhile (· != '/')).reverse
    some (withoutIdleEnd directory)

/-- The part of the file name before its last point and the part after it. A point at the front of
a name separates nothing. -/
def splitName (name : Text) : Text × Option Text :=
  if name = ['.', '.'] then (name, none)
  else match Text.splitLast? '.' name with
    | some ([], _) => (name, none)
    | some (stem, extension) => (stem, some extension)
    | none => (name, none)

/-- What stands behind the last point of the file name. -/
def extension? (path : FilePath) : Option Text :=
  (fileName? path).bind fun name => (splitName name).2

/-- The path with another extension of its file name. -/
def withExtension (path : FilePath) (extension : Text) : FilePath :=
  match fileName? path with
  | none => path
  | some name =>
    let kept := withoutIdleEnd path
    kept.take (kept.length - name.length) ++ (splitName name).1 ++ '.' :: extension

end FilePath

/-- The shared files of a project. -/
structure Layout where
  /-- The routes. -/
  routes : FilePath
  /-- The seeder of the permissions. -/
  permissionSeeder : FilePath
  /-- The navigation menus. -/
  navigation : FilePath
  /-- The seeder of the database. -/
  databaseSeeder : FilePath
  /-- The directory of the models of the application. -/
  models : FilePath
deriving DecidableEq, Repr

/-- The layout of a project that says nothing else. -/
def Layout.standard : Layout :=
  { routes := "routes/web.php"
    permissionSeeder := "database/seeders/PermissionSeeder.php"
    navigation := "resources/js/config/navigation.ts"
    databaseSeeder := "database/seeders/DatabaseSeeder.php"
    models := "app/Models" }

end Scaffold
