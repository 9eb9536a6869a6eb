import Scaffold.Project.Path
import Scaffold.Registry.Anchor
import Scaffold.Text.Search

/-!
# Entries of a shared file

An entry is a few lines that a generated module adds to a file that all modules share. A comment
with the entry's key marks it, and comments mark where the region of such entries begins and ends.
An entry that was written by hand is recognised by a piece of its text.
-/
namespace Scaffold

/-- How an entry that is there already is recognised. -/
inductive Presence where
  /-- The text occurs anywhere. -/
  | occurs (text : Text)
  /-- The text occurs as a whole word. -/
  | word (text : Text)
deriving DecidableEq, Repr

namespace Presence

/-- The text by which the entry is recognised. -/
def text : Presence → Text
  | occurs text => text
  | word text => text

/-- The entry is recognised in a content. -/
def foundIn (content : Text) : Presence → Bool
  | occurs text => Text.occursIn text content
  | word text => Text.wordOccursIn text content

end Presence

/-- Lines that a module adds to a shared file. -/
structure Entry where
  /-- What tells the entry from others. -/
  key : Text
  /-- The lines, without margin. -/
  lines : List Text
  /-- How the entry is recognised where it is written by hand. -/
  presence : Presence
deriving DecidableEq, Repr

/-- An entry with the region that it belongs to. -/
structure Registration where
  /-- The file, below the root of the project. -/
  file : FilePath
  /-- The name of the region. -/
  region : Text
  /-- Where the region goes if there is none. -/
  anchor : Anchor
  /-- The entry. -/
  entry : Entry
deriving DecidableEq, Repr

namespace Marker

/-- What every marker begins with. -/
def start : Text := "// modforge:"

/-- The line on which a region begins. -/
def beginning (region : Text) : Text := start ++ "begin " ++ region

/-- The line on which a region ends. -/
def ending (region : Text) : Text := start ++ "end " ++ region

/-- The line above an entry. -/
def entry (key : Text) : Text := start ++ "entry " ++ key

/-- The line is a marker. -/
def isMarker (line : Text) : Bool := Text.startsWith (Text.trim line) start

end Marker

/-- The lines of an entry below its marker, with a margin. Empty lines get none. -/
def Entry.linesAt (entry : Entry) (margin : Text) : List Text :=
  (Marker.entry entry.key :: entry.lines).map fun line =>
    if line.isEmpty then [] else margin ++ line

end Scaffold
