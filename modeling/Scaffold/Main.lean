import Scaffold.Command.Reach
import Scaffold.Command.Usage
import Std.Time.Zoned

/-!
# The program

Reads the part of the file system that a command looks at, runs the command on it, and makes the
file system what the command made of it.
-/
namespace Scaffold.Program

/-- The path of a location. -/
def pathOf (location : Location) : String :=
  String.ofList ('/' :: Text.joinWith ['/'] location)

/-- What is at a location of the file system. -/
def entryAt (location : Location) : IO (Option Node) := do
  let place := (← IO.currentDir) / pathOf location
  if ← place.isDir then return some .directory
  else if ← place.pathExists then
    return some (.file (.ofBytes (← IO.FS.readBinFile place).toList))
  else return none

/-- The tree with the entry at a location of the file system. -/
def withEntry (tree : Tree) (location : Location) : IO Tree := do
  if (tree.node? location).isSome then return tree
  match ← entryAt location with
  | some node => return tree.put location node
  | none => return tree

/-- The location of a path, for names that mean what they say. -/
def locationOf (directory : Location) (path : FilePath) : Location :=
  (Text.splitOn '/' path).foldl Tree.step (Tree.origin directory path)

/-- The tree with the entries that a path leads through. -/
def withPath (directory : Location) (tree : Tree) (path : FilePath) : IO Tree := do
  let location := locationOf directory path
  (List.range location.length).foldlM (fun tree count => withEntry tree (location.take (count + 1)))
    tree

/-- The tree with the entries of a directory. -/
def withChildren (directory : Location) (tree : Tree) (path : FilePath) : IO Tree := do
  let tree ← withPath directory tree path
  let location := locationOf directory path
  if tree.isDirectoryAt location then
    let found ← ((← IO.currentDir) / pathOf location).readDir
    found.toList.foldlM (fun tree entry => withEntry tree (location ++ [entry.fileName.toList])) tree
  else return tree

/-- Makes an entry of the file system. -/
def make (location : Location) : Node → IO Unit
  | .directory => IO.FS.createDirAll (pathOf location)
  | .file (.text text) => IO.FS.writeFile (pathOf location) (String.ofList text)
  | .file (.bytes bytes) => IO.FS.writeBinFile (pathOf location) ⟨bytes.toArray⟩

/-- Makes the file system what a command made of it. -/
def apply (before after : Tree) : IO Unit := do
  for (location, node) in after.nodes do
    if before.node? location != some node then make location node
  for (location, _) in before.nodes do
    if (after.node? location).isNone then IO.FS.removeFile (pathOf location)

/-- The time on the wall. -/
def moment : IO Moment := do
  let now ← Std.Time.PlainDateTime.now
  return ⟨now.year.toInt.toNat, now.month.toNat, now.day.toNat, now.hour.toNat, now.minute.toNat,
    now.second.toNat⟩

/-- The variables of the environment that parameters take their values from. -/
def environment : IO (List (Text × Text)) := do
  let names := Command.generateModule.parameters.filterMap (·.environment)
  let values ← names.mapM fun name => do
    return (name, (← IO.getEnv (String.ofList name)).map String.toList)
  return values.filterMap fun (name, value) => value.map (name, ·)

/-- Prints lines. -/
def print (lines : List Text) : IO Unit :=
  lines.forM fun line => IO.println (String.ofList line)

/-- Answers a command line that asks for no command, and gives the code to end with. -/
def answerFault (fault : UsageFault) : IO UInt32 := do
  match fault with
  | .help => print Command.helpLines; return 0
  | .version => print [version]; return 0
  | fault => IO.eprintln (String.ofList fault.message); return 2

/-- Performs what a command line asks for, and gives the code to end with. -/
def perform (session : Session) (invocation : Invocation) : IO UInt32 := do
  let settings ← (session.settingsPaths invocation).foldlM (withPath session.directory) .empty
  let files ← (session.filePaths settings invocation).foldlM (withPath session.directory) settings
  let tree ← (session.migrationDirectory? settings invocation).toList.foldlM
    (withChildren session.directory) files
  let (after, result) := session.perform invocation tree
  apply tree after
  match result with
  | .ok lines => print lines; return 0
  | .error failure => IO.eprintln (String.ofList failure.message); return 1

/-- Runs the command that words ask for, and gives the code to end with. -/
def run (words : List Text) : IO UInt32 := do
  let directory := locationOf [] (← IO.currentDir).toString.toList
  let session : Session := ⟨directory, ← environment, ← moment⟩
  match Invocation.ofWords session.environment words with
  | .error fault => answerFault fault
  | .ok invocation => perform session invocation

end Scaffold.Program

/-- Runs the command that the arguments ask for. -/
def main (arguments : List String) : IO UInt32 :=
  Scaffold.Program.run (arguments.map String.toList)
