import Scaffold.Project.Path

/-!
# File trees

The directories and files that a program sees, as a value. Operations take the directory that
relative paths start from, and follow a path name by name: every name but the last must lead to a
directory that is there. An operation that fails says why and leaves the tree as it was, except
that directories which were made on the way stay.
-/
namespace Scaffold

/-- What a file holds. -/
inductive FileContent where
  /-- A text. -/
  | text (text : Text)
  /-- Bytes that are no text. -/
  | bytes (bytes : List UInt8)
deriving DecidableEq, Repr

namespace FileContent

/-- The number of bytes. -/
def size : FileContent → Nat
  | text written => written.foldr (fun c size => c.utf8Size + size) 0
  | bytes raw => raw.length

/-- The content that bytes make. -/
def ofBytes (bytes : List UInt8) : FileContent :=
  match String.fromUTF8? ⟨bytes.toArray⟩ with
  | some string => .text string.toList
  | none => .bytes bytes

end FileContent

/-- Why a file operation fails. -/
inductive FileFault where
  /-- There is nothing. -/
  | notFound
  /-- There is a directory where a file is needed. -/
  | isDirectory
  /-- There is a file where a directory is needed. -/
  | notDirectory
  /-- There is something already. -/
  | alreadyExists
  /-- The content is no text. -/
  | noText
deriving DecidableEq, Repr

/-- The fault in words. -/
def FileFault.message : FileFault → Text
  | notFound => "No such file or directory (os error 2)"
  | isDirectory => "Is a directory (os error 21)"
  | notDirectory => "Not a directory (os error 20)"
  | alreadyExists => "File exists (os error 17)"
  | noText => "stream did not contain valid UTF-8"

/-- An entry of a directory. -/
inductive Node where
  /-- A file. -/
  | file (content : FileContent)
  /-- A directory. -/
  | directory
deriving DecidableEq, Repr

/-- The names that lead to an entry from the root of the file system. -/
abbrev Location := List Text

/-- Directories and files. The root itself is always a directory and is not listed. -/
structure Tree where
  /-- The entries with their locations. -/
  nodes : List (Location × Node)
deriving DecidableEq, Repr

namespace Tree

/-- No entries. -/
def empty : Tree := ⟨[]⟩

/-- What is at a location. -/
def node? (tree : Tree) (location : Location) : Option Node :=
  if location.isEmpty then some .directory
  else (tree.nodes.find? (·.1 == location)).map (·.2)

/-- The tree with an entry at a location. -/
def put (tree : Tree) (location : Location) (node : Node) : Tree :=
  ⟨tree.nodes.filter (·.1 != location) ++ [(location, node)]⟩

/-- The tree without the entry at a location. -/
def erase (tree : Tree) (location : Location) : Tree :=
  ⟨tree.nodes.filter (·.1 != location)⟩

/-- There is a directory at a location. -/
def isDirectoryAt (tree : Tree) (location : Location) : Bool :=
  tree.node? location == some .directory

/-- The location that a name leads to from a directory. -/
def step (location : Location) (name : Text) : Location :=
  if name = [] || name = ['.'] then location
  else if name = ['.', '.'] then location.dropLast
  else location ++ [name]

/-- The location that names lead to. Every name starts from a directory that is there. -/
def walk (tree : Tree) (location : Location) : List Text → Except FileFault Location
  | [] => .ok location
  | name :: rest =>
    match tree.node? location with
    | none => .error .notFound
    | some (.file _) => .error .notDirectory
    | some .directory => tree.walk (step location name) rest

/-- Where a path starts. -/
def origin (directory : Location) (path : FilePath) : Location :=
  if FilePath.isAbsolute path then [] else directory

/-- The location that a path leads to from a directory. The empty path leads nowhere. -/
def locate (tree : Tree) (directory : Location) (path : FilePath) : Except FileFault Location :=
  if path.isEmpty then .error .notFound
  else tree.walk (origin directory path) (Text.splitOn '/' path)

/-- What a path leads to. -/
def lookup? (tree : Tree) (directory : Location) (path : FilePath) : Option Node :=
  (tree.locate directory path).toOption.bind tree.node?

/-- The path leads to a file. -/
def isFile (tree : Tree) (directory : Location) (path : FilePath) : Bool :=
  match tree.lookup? directory path with
  | some (.file _) => true
  | _ => false

/-- The path leads to a directory. -/
def isDirectory (tree : Tree) (directory : Location) (path : FilePath) : Bool :=
  tree.lookup? directory path == some .directory

/-- The path leads to something. -/
def occupied (tree : Tree) (directory : Location) (path : FilePath) : Bool :=
  (tree.lookup? directory path).isSome

/-- The content of the file at a path. -/
def read (tree : Tree) (directory : Location) (path : FilePath) :
    Except FileFault FileContent := do
  match tree.node? (← tree.locate directory path) with
  | none => throw .notFound
  | some .directory => throw .isDirectory
  | some (.file content) => return content

/-- The text of the file at a path. -/
def readText (tree : Tree) (directory : Location) (path : FilePath) : Except FileFault Text := do
  match ← tree.read directory path with
  | .text text => return text
  | .bytes _ => throw .noText

/-- Writes a file, which is made or replaced. -/
def write (tree : Tree) (directory : Location) (path : FilePath) (content : FileContent) :
    Except FileFault Tree := do
  let location ← tree.locate directory path
  if tree.isDirectoryAt location then throw .isDirectory
  else return tree.put location (.file content)

/-- Copies a file to another path. -/
def copy (tree : Tree) (directory : Location) (source target : FilePath) :
    Except FileFault Tree := do
  tree.write directory target (← tree.read directory source)

/-- Removes a file. -/
def remove (tree : Tree) (directory : Location) (path : FilePath) : Except FileFault Tree := do
  let location ← tree.locate directory path
  match tree.node? location with
  | none => throw .notFound
  | some .directory => throw .isDirectory
  | some (.file _) => return tree.erase location

/-- Makes the directories that names lead through, where they are missing. A file on the way is no
directory for the names behind it; once directories had to be made, it stands in the way of the
next one. -/
def makeAlong (tree : Tree) (location : Location) (made : Bool) :
    List Text → Tree × Option FileFault
  | [] => (tree, none)
  | name :: rest =>
    let next := step location name
    match tree.node? next with
    | some .directory => tree.makeAlong next made rest
    | some (.file _) =>
      (tree, some (if made || rest.isEmpty then .alreadyExists else .notDirectory))
    | none => (tree.put next .directory).makeAlong next true rest

/-- Makes a directory and all directories above it. -/
def makeDirectories (tree : Tree) (directory : Location) (path : FilePath) :
    Tree × Option FileFault :=
  tree.makeAlong (origin directory path) false
    ((Text.splitOn '/' path).filter fun name => name != [] && name != ['.'])

/-- The entries of a directory, by name. -/
def children (tree : Tree) (location : Location) : List Text :=
  tree.nodes.filterMap fun (place, _) =>
    match place.getLast? with
    | some name => if place.dropLast = location then some name else none
    | none => none

/-- The files of a tree. -/
def files (tree : Tree) : List (Location × FileContent) :=
  tree.nodes.filterMap fun (location, node) =>
    match node with
    | .file content => some (location, content)
    | .directory => none

end Tree

end Scaffold
