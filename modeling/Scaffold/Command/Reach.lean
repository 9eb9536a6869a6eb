import Scaffold.Command.Session

/-!
# What a command looks at

A command runs on a value that holds a part of the file system. The paths here name that part: first
the files with settings, then, when the settings are known, the files that a generation reads or
writes. Only the directory of the migrations is looked through.
-/
namespace Scaffold.Session

/-- The files with settings. -/
def settingsPaths (session : Session) : Invocation → List FilePath
  | .generateModule _ file _ => LocatedConfiguration.places session.path ++ file.toList
  | .configInit _ => [FilePath.join ['.'] Configuration.fileName]

/-- What a generation is about, as far as the settings tell. -/
def subject? (session : Session) (tree : Tree) : Invocation → Option (Layout × Settings × Plan)
  | .generateModule settings file _ => do
    let (layout, settings) ← (session.configured settings file tree).toOption
    let plan ← (planOf settings).toOption
    return (layout, settings, plan)
  | .configInit _ => none

/-- The templates that a plan is made from. -/
def templatePaths (settings : Settings) (plan : Plan) : List FilePath :=
  (settings.templates.toList).flatMap fun directory =>
    (Artifact.ofPlan plan).map fun artifact => FilePath.join directory artifact.stubName

/-- The files of the project that a generation reads or writes, below its root. -/
def projectFiles (layout : Layout) (plan : Plan) : List FilePath :=
  (Artifact.ofPlan plan).map (Artifact.path plan) ++
    (plan.sharedEntries layout).map (·.file) ++
    plan.accessors.flatMap fun accessor => plan.modelCandidates layout accessor.target

/-- The files that a generation reads or writes. -/
def filePaths (session : Session) (tree : Tree) (invocation : Invocation) : List FilePath :=
  match session.subject? tree invocation with
  | none => []
  | some (layout, settings, plan) =>
    templatePaths settings plan ++
      (projectFiles layout plan).map (FilePath.join settings.projectRoot)

/-- The directory of the migrations. -/
def migrationDirectory? (session : Session) (tree : Tree) (invocation : Invocation) :
    Option FilePath :=
  (session.subject? tree invocation).map fun (_, settings, plan) =>
    FilePath.join settings.projectRoot (Project.placeOf (Artifact.migration.path plan)).1

end Scaffold.Session
