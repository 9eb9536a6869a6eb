import Scaffold.Project.Tree

/-!
# Wildcard searches

Looking for entries of a file tree by a path with wildcards. A question mark stands for one
character, a star for any characters of one name, brackets for one character of a set, and two
stars as a whole name for any number of directories. Names without wildcards are looked up; the
others are compared with the entries of a directory, hidden ones included.
-/
namespace Scaffold

/-- A part of a name with wildcards. -/
inductive GlobToken where
  /-- A character itself. -/
  | char (c : Char)
  /-- Any one character. -/
  | anyChar
  /-- Any characters. -/
  | anyChars
  /-- Any directories; stands alone. -/
  | anyDirectories
  /-- A character between two of a pair, or one that lies between none. -/
  | oneOf (negated : Bool) (ranges : List (Char × Char))
deriving DecidableEq, Repr

namespace Glob

/-- The ranges that the characters between brackets list. -/
def ranges : Text → List (Char × Char)
  | first :: '-' :: last :: rest => (first, last) :: ranges rest
  | c :: rest => (c, c) :: ranges rest
  | [] => []

/-- The set behind an opening bracket and what follows it. The first character belongs to the set,
even if it is a closing bracket. -/
def bracket? (text : Text) : Option (GlobToken × Text) := do
  let (negated, members) : Bool × Text := match text with
    | '!' :: rest => (true, rest)
    | rest => (false, rest)
  match members with
  | [] => none
  | first :: rest =>
    let (others, after) ← Text.splitFirst? ']' rest
    some (.oneOf negated (ranges (first :: others)), after)

/-- The stars that a text begins with, and the rest. -/
def stars (text : Text) : Nat × Text :=
  ((text.takeWhile (· == '*')).length, text.dropWhile (· == '*'))

/-- Two stars stand alone between slashes or ends, given the character before and what follows. -/
def standsAlone (before : Option Char) (after : Text) : Bool :=
  (before == none || before == some '/') && (after.isEmpty || after.head? == some '/')

/-- The tokens of a pattern, given the character before it; none if it is not well formed. The
first argument bounds the number of tokens by the length of the text. -/
def readFrom : Nat → Option Char → Text → Option (List GlobToken)
  | _, _, [] => some []
  | 0, _, _ :: _ => none
  | bound + 1, _, '?' :: rest => (readFrom bound (some '?') rest).map (.anyChar :: ·)
  | bound + 1, _, '[' :: rest => do
    let (token, after) ← bracket? rest
    (readFrom bound (some ']') after).map (token :: ·)
  | bound + 1, before, '*' :: rest =>
    match stars rest with
    | (0, after) => (readFrom bound (some '*') after).map (.anyChars :: ·)
    | (1, after) =>
      if standsAlone before after then
        (readFrom bound (some '/') (after.drop 1)).map (.anyDirectories :: ·)
      else none
    | _ => none
  | bound + 1, _, c :: rest => (readFrom bound (some c) rest).map (.char c :: ·)

/-- The tokens of a pattern; none if it is not well formed. -/
def read? (pattern : Text) : Option (List GlobToken) := readFrom pattern.length none pattern

/-- A text and all its ends. -/
def endings : Text → List Text
  | [] => [[]]
  | c :: rest => (c :: rest) :: endings rest

/-- A character lies in one of the ranges. -/
def inRanges (listed : List (Char × Char)) (c : Char) : Bool :=
  listed.any fun (first, last) => first ≤ c && c ≤ last

/-- Tokens match a name as a whole. -/
def matchesName : List GlobToken → Text → Bool
  | [], name => name.isEmpty
  | .anyChars :: tokens, name => (endings name).any (matchesName tokens)
  | .anyDirectories :: _, _ => false
  | _ :: _, [] => false
  | .char d :: tokens, c :: name => c == d && matchesName tokens name
  | .anyChar :: tokens, _ :: name => matchesName tokens name
  | .oneOf negated listed :: tokens, c :: name =>
    inRanges listed c != negated && matchesName tokens name

/-- The name that tokens without wildcards stand for. -/
def plain? : List GlobToken → Option Text
  | [] => some []
  | .char c :: tokens => (plain? tokens).map (c :: ·)
  | _ :: _ => none

/-- The directory that a search starts from when its path is relative. -/
def hereDirectory : FilePath := ['.']

/-- An entry of a directory on a search. The directory that the search starts from is left out of
the path. -/
def enter (directory : FilePath) (name : Text) : FilePath :=
  if FilePath.same directory hereDirectory then name else FilePath.join directory name

/-- The entries below a directory at any depth, as paths. -/
def below (tree : Tree) (start : Location) (directory : FilePath) : List FilePath :=
  match tree.locate start directory with
  | .error _ => []
  | .ok location =>
    tree.nodes.filterMap fun (place, _) =>
      if location.isPrefixOf place && location.length < place.length then
        some ((place.drop location.length).foldl enter directory)
      else none

/-- The entries of a directory, as names. -/
def names (tree : Tree) (start : Location) (directory : FilePath) : List Text :=
  match tree.locate start directory with
  | .error _ => []
  | .ok location => tree.children location

/-- The last name of a path matches tokens. -/
def matchesPath (tokens : List GlobToken) (path : FilePath) : Bool :=
  (FilePath.fileName? path).any (matchesName tokens)

/-- The names for the directory itself and the one above that tokens match. Only a written point
matches the point in front of them. -/
def pointNames (tokens : List GlobToken) : List Text :=
  if tokens.head? = some (.char '.') then
    [['.'], ['.', '.']].filter (matchesName tokens)
  else []

/-- The entries of a directory that one name of a pattern finds. -/
def oneName (tree : Tree) (start : Location) (tokens : List GlobToken) (path : FilePath) :
    List FilePath :=
  match plain? tokens with
  | some name =>
    let next := enter path name
    let there :=
      if name = ['.'] || name = ['.', '.'] then tree.isDirectory start path
      else tree.occupied start next
    if there then [next] else []
  | none =>
    if tree.isDirectory start path then
      ((names tree start path).filter (matchesName tokens)).map (enter path) ++
        (pointNames tokens).map (FilePath.join path)
    else []

/-- The paths that the names of a pattern find below a path, one after the other. Two stars at the
end find all directories below, and a name behind two stars is looked for at any depth. -/
def expand (tree : Tree) (start : Location) : List (List GlobToken) → FilePath → List FilePath
  | [], path => [path]
  | [tokens], path =>
    if tokens = [.anyDirectories] then (below tree start path).filter (tree.isDirectory start)
    else oneName tree start tokens path
  | tokens :: next :: more, path =>
    if tokens = [.anyDirectories] then
      if next = [.anyDirectories] then expand tree start (next :: more) path
      else ((below tree start path).filter (matchesPath next)).flatMap (expand tree start more)
    else (oneName tree start tokens path).flatMap (expand tree start (next :: more))

/-- The names of a pattern behind its start. -/
def patternNames (pattern : FilePath) : List Text :=
  Text.splitOn '/' (if FilePath.isAbsolute pattern then pattern.drop 1 else pattern)

/-- The entries of a tree that a pattern with a name at its end finds from a directory; none if the
pattern is not well formed, as a whole or in one of its names. -/
def find? (tree : Tree) (start : Location) (pattern : FilePath) : Option (List FilePath) := do
  let _ ← read? pattern
  let patterns ← (patternNames pattern).mapM read?
  some (expand tree start patterns (if FilePath.isAbsolute pattern then ['/'] else hereDirectory))

end Glob

end Scaffold
