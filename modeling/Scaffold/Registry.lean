import Scaffold.Registry.Entry

/-!
# Shared files

A shared file is written by hand, and generated modules add entries to it. The entries of one kind
stand in a marked region, which the first of them creates at an anchor. An entry is added once: it
is left alone where its marker or its text is found anywhere in the file. All other lines stay.
-/
namespace Scaffold

/-- A shared file as lines. -/
structure SharedFile where
  /-- The lines without their endings. -/
  lines : List Text
  /-- The last line has an ending. -/
  ended : Bool
deriving DecidableEq, Repr

/-- What became of an entry. -/
inductive Insertion where
  /-- The entry was added. -/
  | inserted
  /-- The entry was there. -/
  | alreadyPresent
  /-- There is no region, and the anchor was not found. -/
  | anchorNotFound
deriving DecidableEq, Repr

/-- A region of a shared file. -/
structure Region where
  /-- The index of its first line. -/
  first : Nat
  /-- The index of its last line. -/
  last : Nat
  /-- The margin of its first line. -/
  margin : Text
deriving DecidableEq, Repr

namespace SharedFile

/-- The shared file with a content. -/
def ofText (content : Text) : SharedFile :=
  { lines := Text.lines content
    ended := content.isEmpty || content.getLast? == some '\n' }

/-- The lines as one text. -/
def joined (file : SharedFile) : Text := Text.unlines file.lines

/-- The content of a shared file. -/
def toText (file : SharedFile) : Text := file.joined ++ (if file.ended then ['\n'] else [])

/-- The index of the first line that is a text up to blanks around it. -/
def indexOf? (lines : List Text) (marker : Text) : Option Nat :=
  lines.findIdx? fun line => Text.trim line = marker

/-- The region of a name: from the first line that begins it to the first line behind that ends
it. -/
def region? (file : SharedFile) (name : Text) : Option Region := do
  let first ← indexOf? file.lines (Marker.beginning name)
  let length ← indexOf? (file.lines.drop first) (Marker.ending name)
  some
    { first
      last := first + length
      margin := Text.leadingBlanks (file.lines.getD first []) }

/-- The entry is there: its marker is a line of the file, or its text is found. -/
def contains (file : SharedFile) (entry : Entry) : Bool :=
  (Text.lines file.joined).any (fun line => Text.trim line == Marker.entry entry.key) ||
    entry.presence.foundIn file.joined

/-- The file with lines put in below a number of lines. -/
def insertLines (file : SharedFile) (index : Nat) (lines : List Text) : SharedFile :=
  { file with lines := file.lines.take index ++ lines ++ file.lines.drop index }

/-- A region with one entry. -/
def newRegion (registration : Registration) (margin : Text) : List Text :=
  (margin ++ Marker.beginning registration.region) :: registration.entry.linesAt margin ++
    [margin ++ Marker.ending registration.region]

/-- Adds an entry at the end of its region, or creates the region. -/
def insert (file : SharedFile) (registration : Registration) :
    Except AnchorFault (Insertion × SharedFile) :=
  if file.contains registration.entry then .ok (.alreadyPresent, file)
  else match file.region? registration.region with
    | some region =>
      .ok (.inserted, file.insertLines region.last (registration.entry.linesAt region.margin))
    | none =>
      match registration.anchor.locate file.toText with
      | .error fault => .error fault
      | .ok none => .ok (.anchorNotFound, file)
      | .ok (some site) =>
        .ok (.inserted, file.insertLines site.line (newRegion registration site.margin))

end SharedFile

end Scaffold
