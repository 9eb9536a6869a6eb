import Scaffold.Artifact.Output
import Scaffold.Project.Glob
import Scaffold.Registry
import Scaffold.Registry.Wiring

/-!
# Installing a module in a project

The artifacts of a plan are written, and its entries are added to the shared files of the project.
A migration has the time at the front of its name, which puts migrations into the order in which
they were made, and it keeps the name that an earlier generation gave it. Every shared file is read
once and written once; while it is written, a copy lies beside it. What could not be added is
reported and left to be done by hand.
-/
namespace Scaffold

/-- A reading of the clock on the wall. -/
structure Moment where
  /-- The year. -/
  year : Nat
  /-- The month, from 1. -/
  month : Nat
  /-- The day of the month, from 1. -/
  day : Nat
  /-- The hour. -/
  hour : Nat
  /-- The minute. -/
  minute : Nat
  /-- The second. -/
  second : Nat
deriving DecidableEq, Repr

namespace Moment

/-- A number with zeros in front up to a width. -/
def padded (width value : Nat) : Text :=
  let digits := Text.ofNat value
  List.replicate (width - digits.length) '0' ++ digits

/-- A moment as it stands in the name of a migration. -/
def stamp (moment : Moment) : Text :=
  Text.joinWith ['_']
    [padded 4 moment.year, padded 2 moment.month, padded 2 moment.day,
      padded 2 moment.hour ++ padded 2 moment.minute ++ padded 2 moment.second]

end Moment

/-- A project that modules are installed in. -/
structure Project where
  /-- The directory that relative paths start from. -/
  start : Location
  /-- The root of the project. -/
  root : FilePath
  /-- Where its shared files lie. -/
  layout : Layout
  /-- Nothing is written. -/
  dryRun : Bool
deriving DecidableEq, Repr

/-- What became of an entry. -/
inductive EntryResult where
  /-- It was added. -/
  | inserted
  /-- It was there. -/
  | alreadyPresent
  /-- Its file has no place for it. -/
  | anchorNotFound
  /-- Its file is missing. -/
  | fileNotFound
deriving DecidableEq, Repr

/-- What became of an entry of a file. -/
structure EntryReport where
  /-- The file. -/
  file : FilePath
  /-- The key of the entry. -/
  key : Text
  /-- What became of it. -/
  result : EntryResult
deriving DecidableEq, Repr

/-- What an installation did. -/
structure Report where
  /-- The files that were written, below the root of the project. -/
  written : List FilePath
  /-- What became of the entries. -/
  entries : List EntryReport
deriving DecidableEq, Repr

namespace EntryReport

/-- The entry is in its file now. -/
def isPlaced (report : EntryReport) : Bool :=
  report.result == .inserted || report.result == .alreadyPresent

end EntryReport

namespace Report

/-- The entries that are in their files now. -/
def splices (report : Report) : List EntryReport := report.entries.filter (·.isPlaced)

/-- The entries that are left to be added by hand. -/
def warnings (report : Report) : List EntryReport := report.entries.filter (!·.isPlaced)

/-- The number of entries that were added. -/
def inserted (report : Report) : Nat :=
  (report.entries.filter (·.result == .inserted)).length

end Report

/-- A changed file tree, with a value or the reason why there is none. -/
abbrev Changed (α : Type) := Tree × Except Failure α

namespace Project

/-- The path of a file of the project. -/
def pathOf (project : Project) (file : FilePath) : FilePath := FilePath.join project.root file

/-- Where the artifact lies: its directory, and its name without the time of a migration. -/
def placeOf (path : FilePath) : FilePath × Text :=
  ((FilePath.parent? path).getD [], (FilePath.fileName? path).getD [])

/-- The pattern that finds the migrations of a name. -/
def migrationPattern (project : Project) (directory : FilePath) (name : Text) : FilePath :=
  FilePath.join (project.pathOf directory) ("*_" ++ name)

/-- The path of an artifact. A migration has the name of the first one that is there already, or
gets the time in front. -/
def target (project : Project) (tree : Tree) (moment : Moment) (file : OutputFile) :
    Except Failure FilePath :=
  if file.artifact = .migration then
    let (directory, name) := placeOf file.path
    match Glob.find? tree project.start (project.migrationPattern directory name) with
    | none => .error .configuration
    | some found =>
      match (FilePath.least? found).bind FilePath.fileName? with
      | some existing => .ok (FilePath.join directory existing)
      | none => .ok (FilePath.join directory (moment.stamp ++ '_' :: name))
  else .ok file.path

/-- Writes an artifact and makes the directories above it. -/
def writeArtifact (project : Project) (tree : Tree) (file : FilePath) (content : Text) :
    Changed Unit :=
  if project.dryRun then (tree, .ok ())
  else
    let path := project.pathOf file
    let directory := (FilePath.parent? path).getD []
    match tree.makeDirectories project.start directory with
    | (tree, some fault) => (tree, .error (.file directory fault))
    | (tree, none) =>
      match tree.write project.start path (.text content) with
      | .ok tree => (tree, .ok ())
      | .error fault => (tree, .error (.file path fault))

/-- Writes artifacts one after the other, and gives their paths. -/
def writeArtifacts (project : Project) (moment : Moment) (tree : Tree) :
    List OutputFile → Changed (List FilePath)
  | [] => (tree, .ok [])
  | file :: rest =>
    match project.target tree moment file with
    | .error failure => (tree, .error failure)
    | .ok path =>
      match project.writeArtifact tree path file.content with
      | (tree, .error failure) => (tree, .error failure)
      | (tree, .ok ()) =>
        match project.writeArtifacts moment tree rest with
        | (tree, .error failure) => (tree, .error failure)
        | (tree, .ok paths) => (tree, .ok (path :: paths))

/-- The file of the model that gets an accessor, if it is there. -/
def accessorFile? (project : Project) (tree : Tree) (plan : Plan) (accessor : ReverseAccessor) :
    Option FilePath :=
  (plan.modelCandidates project.layout accessor.target).find? fun candidate =>
    tree.isFile project.start (project.pathOf candidate)

/-- The accessors as entries of the files of their models. -/
def accessorEntries (project : Project) (tree : Tree) (plan : Plan) : List Registration :=
  plan.accessors.filterMap fun accessor =>
    (project.accessorFile? tree plan accessor).map accessor.registration

/-- The accessors whose models have no file. -/
def accessorWarnings (project : Project) (tree : Tree) (plan : Plan) : List EntryReport :=
  (plan.accessors.filter fun accessor =>
    (project.accessorFile? tree plan accessor).isNone).map fun accessor =>
      { file := FilePath.join project.layout.models (Plan.modelFile accessor.target)
        key := accessor.entry.key
        result := .fileNotFound }

/-- The entries that are added to the files of a project. -/
def pending (project : Project) (tree : Tree) (plan : Plan) : List Registration :=
  plan.sharedEntries project.layout ++ project.accessorEntries tree plan

/-- The first of every several paths to one file. -/
def distinctFiles : List FilePath → List FilePath
  | [] => []
  | file :: rest => file :: (distinctFiles rest).filter fun other => !FilePath.same file other

/-- What became of an entry, as it is reported. -/
def resultOf : Insertion → EntryResult
  | .inserted => .inserted
  | .alreadyPresent => .alreadyPresent
  | .anchorNotFound => .anchorNotFound

/-- Adds entries to a shared file one after the other. -/
def insertAll (path : FilePath) (file : SharedFile) :
    List Registration → Except Failure (SharedFile × List EntryReport)
  | [] => .ok (file, [])
  | registration :: rest =>
    match file.insert registration with
    | .error fault => .error (.anchor fault)
    | .ok (insertion, file) =>
      match insertAll path file rest with
      | .error failure => .error failure
      | .ok (file, reports) =>
        .ok (file, ⟨path, registration.entry.key, resultOf insertion⟩ :: reports)

/-- The path of the copy of a file. -/
def backupPath (path : FilePath) : FilePath :=
  FilePath.withExtension path <|
    match FilePath.extension? path with
    | some extension => extension ++ ".bak"
    | none => "bak"

/-- Replaces the content of a file. A copy lies beside it until the new content is written. -/
def replace (project : Project) (tree : Tree) (path : FilePath) (content : Text) :
    Changed Unit :=
  let backup := backupPath path
  match tree.copy project.start path backup with
  | .error fault => (tree, .error (.file backup fault))
  | .ok copied =>
    match copied.write project.start path (.text content) with
    | .error fault => (copied, .error (.file path fault))
    | .ok written =>
      match written.remove project.start backup with
      | .error fault => (written, .error (.file backup fault))
      | .ok removed => (removed, .ok ())

/-- Adds entries to the file at a path. -/
def addEntries (project : Project) (tree : Tree) (file : FilePath)
    (registrations : List Registration) : Changed (List EntryReport) :=
  let path := project.pathOf file
  if !tree.isFile project.start path then
    (tree, .ok (registrations.map fun registration =>
      ⟨file, registration.entry.key, .fileNotFound⟩))
  else match tree.readText project.start path with
    | .error fault => (tree, .error (.file path fault))
    | .ok content =>
      match insertAll file (SharedFile.ofText content) registrations with
      | .error failure => (tree, .error failure)
      | .ok (updated, reports) =>
        if updated.toText = content || project.dryRun then (tree, .ok reports)
        else match project.replace tree path updated.toText with
          | (tree, .error failure) => (tree, .error failure)
          | (tree, .ok ()) => (tree, .ok reports)

/-- Adds the pending entries of files, file by file. -/
def addAllEntries (project : Project) (registrations : List Registration) (tree : Tree) :
    List FilePath → Changed (List EntryReport)
  | [] => (tree, .ok [])
  | file :: rest =>
    let own := registrations.filter fun registration => FilePath.same registration.file file
    match project.addEntries tree file own with
    | (tree, .error failure) => (tree, .error failure)
    | (tree, .ok reports) =>
      match project.addAllEntries registrations tree rest with
      | (tree, .error failure) => (tree, .error failure)
      | (tree, .ok more) => (tree, .ok (reports ++ more))

/-- Installs a module: writes its artifacts, then adds its entries to the shared files. -/
def install (project : Project) (moment : Moment) (plan : Plan) (output : Output) (tree : Tree) :
    Changed Report :=
  match project.writeArtifacts moment tree output.files with
  | (tree, .error failure) => (tree, .error failure)
  | (tree, .ok written) =>
    let registrations := project.pending tree plan
    let files := distinctFiles (registrations.map (·.file))
    match project.addAllEntries registrations tree files with
    | (changed, .error failure) => (changed, .error failure)
    | (changed, .ok reports) =>
      (changed, .ok ⟨written, project.accessorWarnings tree plan ++ reports⟩)

end Project

end Scaffold
