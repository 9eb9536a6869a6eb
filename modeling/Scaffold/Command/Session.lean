import Scaffold.Command.Invocation
import Scaffold.Plan.Build
import Scaffold.Project.Configuration
import Scaffold.Project.Install

/-!
# Running commands

A command runs in a directory, at a moment, in an environment. It changes the file tree and says
what it did, line by line; a command that fails says nothing and gives the reason.
-/
namespace Scaffold

/-- Why a command fails. -/
inductive CommandFailure where
  /-- The command line is not right. -/
  | usage (fault : UsageFault)
  /-- The generation stopped. -/
  | stopped (failure : Failure)
  /-- The entity has no name. -/
  | nameless
  /-- Some artifacts have no content. -/
  | incomplete (failures : List OutputFailure)
  /-- There is a configuration file already. -/
  | configured
deriving DecidableEq, Repr

namespace CommandFailure

/-- An artifact without content, in words. -/
def artifactMessage (failed : OutputFailure) : Text :=
  failed.artifact.name ++ ": " ++ failed.failure.message

/-- A failure in words; a command line that is not right has none here. -/
def message : CommandFailure → Text
  | usage _ => []
  | stopped failure => failure.message
  | nameless => "Entity name is required, pass it as an argument or set `name` in the config"
  | incomplete failures =>
    "Some files could not be generated (" ++ Text.commaList (failures.map artifactMessage) ++ ")"
  | configured =>
    "A " ++ Configuration.fileName ++ " file already exists, use --force to rewrite it"

end CommandFailure

namespace EntryReport

/-- What is said about an entry. Nothing is said about one that was there. -/
def line? (report : EntryReport) : Option Text :=
  let place := report.key ++ " in " ++ report.file
  let byHand (reason : Text) : Text :=
    "Skipped " ++ place ++ " (" ++ reason ++ "), register it by hand"
  match report.result with
  | .inserted => some ("Registered " ++ place)
  | .alreadyPresent => none
  | .anchorNotFound => some (byHand "no insertion point")
  | .fileNotFound => some (byHand "file not found")

end EntryReport

/-- What is said about an installation: the files, the entries that were added and those that were
not. -/
def Report.lines (report : Report) (dryRun : Bool) : List Text :=
  let verb : Text := if dryRun then "Would write " else "Writing "
  report.written.map (verb ++ ·) ++ report.splices.filterMap EntryReport.line? ++
    report.warnings.filterMap EntryReport.line? ++ ["... Done.".toList]

/-- Where and when a command runs. -/
structure Session where
  /-- The directory. -/
  directory : Location
  /-- The variables of the environment. -/
  environment : List (Text × Text)
  /-- The time. -/
  moment : Moment
deriving DecidableEq, Repr

namespace Session

/-- The absolute path of the directory. -/
def path (session : Session) : FilePath := '/' :: Text.joinWith ['/'] session.directory

/-- The settings of a command with those of the file that it names and those of the project. -/
def allSettings (session : Session) (tree : Tree) (settings : Settings) (file : Option FilePath)
    (located : Option LocatedConfiguration) : Except Failure Settings := do
  let stored ← match file with
    | some path => Settings.ofFile tree session.directory path
    | none => .ok .empty
  let project := (located.map LocatedConfiguration.settings).getD .empty
  return (settings.orElse stored).orElse project

/-- The plan that settings ask for. -/
def planOf (settings : Settings) : Except CommandFailure Plan :=
  match settings.entityName? with
  | none => .error .nameless
  | some name =>
    match settings.options name with
    | .error failure => .error (.stopped failure)
    | .ok options => .ok (Plan.ofOptions options)

/-- Where the templates of a generation come from. -/
def templateSource (settings : Settings) : TemplateSource :=
  match settings.templates with
  | some directory => .overlay directory
  | none => .stubs

/-- The project that a module is installed in. -/
def projectOf (session : Session) (settings : Settings) (layout : Layout) (dryRun : Bool) :
    Project :=
  { start := session.directory
    root := settings.projectRoot
    layout := layout
    dryRun := dryRun }

/-- Generates a module from its settings. Artifacts without content are the last thing that counts:
the others are installed before. -/
def generate (session : Session) (settings : Settings) (layout : Layout) (dryRun : Bool)
    (tree : Tree) : Tree × Except CommandFailure (List Text) :=
  match planOf settings with
  | .error failure => (tree, .error failure)
  | .ok plan =>
    let output := plan.output (templateSource settings) tree session.directory
    let project := session.projectOf settings layout dryRun
    match project.install session.moment plan output tree with
    | (tree, .error failure) => (tree, .error (.stopped failure))
    | (tree, .ok report) =>
      if output.failures.isEmpty then (tree, .ok (report.lines dryRun))
      else (tree, .error (.incomplete output.failures))

/-- The configuration of the project and all settings of a generation. -/
def configured (session : Session) (settings : Settings) (file : Option FilePath) (tree : Tree) :
    Except Failure (Layout × Settings) := do
  let located ← LocatedConfiguration.load tree session.directory session.path
  let settings ← session.allSettings tree settings file located
  return ((located.map LocatedConfiguration.layout).getD .standard, settings)

/-- Makes a configuration file in the directory. -/
def initialise (session : Session) (force : Bool) (tree : Tree) :
    Tree × Except CommandFailure (List Text) :=
  let path := FilePath.join ['.'] Configuration.fileName
  if tree.occupied session.directory path && !force then (tree, .error .configured)
  else match tree.write session.directory path (.text Configuration.template) with
    | .error fault => (tree, .error (.stopped (.file path fault)))
    | .ok tree => (tree, .ok ["Config file created at ".toList ++ path])

/-- Does what it is asked to do. -/
def perform (session : Session) (invocation : Invocation) (tree : Tree) :
    Tree × Except CommandFailure (List Text) :=
  match invocation with
  | .generateModule settings file dryRun =>
    match session.configured settings file tree with
    | .error failure => (tree, .error (.stopped failure))
    | .ok (layout, settings) => session.generate settings layout dryRun tree
  | .configInit force => session.initialise force tree

/-- Runs the command that words ask for. -/
def run (session : Session) (words : List Text) (tree : Tree) :
    Tree × Except CommandFailure (List Text) :=
  match Invocation.ofWords session.environment words with
  | .error fault => (tree, .error (.usage fault))
  | .ok invocation => session.perform invocation tree

end Session

end Scaffold
