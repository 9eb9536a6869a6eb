import Scaffold.Text.Line

/-!
# Lines of code

Generated code is a list of lines until it is put into a file, and what stands inside a block is
one step deeper than its first and last line. Empty lines get no margin.
-/
namespace Scaffold.Code

/-- The margin of one step. -/
def step : Text := "    "

/-- Lines one step deeper. -/
def deeper (lines : List Text) : List Text :=
  lines.map fun line => if line.isEmpty then [] else step ++ line

/-- Lines between an opening and a closing line. -/
def block (opening : Text) (body : List Text) (closing : Text) : List Text :=
  opening :: deeper body ++ [closing]

/-- Lines between a pair of braces on lines of their own, below a heading. -/
def body (heading : Text) (lines : List Text) : List Text :=
  heading :: block ['\x7b'] lines ['\x7d']

/-- Lines between a pair of braces, of which the first ends the heading. -/
def braces (heading : Text) (lines : List Text) : List Text :=
  block (heading ++ " \x7b") lines ['\x7d']

/-- Lines below an empty one, unless there are none. -/
def below : List Text → List Text
  | [] => []
  | line :: lines => [] :: line :: lines

/-- Parts with an empty line between neighbours. -/
def spaced : List (List Text) → List Text
  | [] => []
  | [part] => part
  | part :: next :: rest => part ++ [] :: spaced (next :: rest)

/-- A comment above a declaration. -/
def docComment (line : Text) : List Text := ["/**", " * " ++ line, " */"]

/-- Lines written one by one, each with a line feed at its end. -/
def written (lines : List String) : Text := lines.flatMap fun line => line.toList ++ ['\n']

/-- Members of a literal between braces on one line. -/
def record (members : List Text) : Text := Text.braced (' ' :: Text.commaList members ++ [' '])

/-- A list literal on one line. -/
def list (members : List Text) : Text := '[' :: Text.commaList members ++ [']']

end Scaffold.Code
