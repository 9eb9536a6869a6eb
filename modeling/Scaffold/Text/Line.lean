import Scaffold.Text.Blank

/-!
# Lines

A line ends at a line feed; a carriage return before the line feed belongs to the line ending. A
text whose last line has no ending has that line all the same, and a text that ends with a line
feed has no empty line after it.
-/
namespace Scaffold.Text

/-- The lines with their endings. -/
def linesWithEndings : Text → List Text
  | [] => []
  | c :: rest =>
    if c = '\n' then ['\n'] :: linesWithEndings rest
    else match linesWithEndings rest with
      | [] => [[c]]
      | line :: lines => (c :: line) :: lines

/-- A line without its ending: a line feed and, before it, a carriage return. -/
def withoutEnding (line : Text) : Text :=
  match line.reverse with
  | '\n' :: '\r' :: rest => rest.reverse
  | '\n' :: rest => rest.reverse
  | _ => line

/-- The lines without their endings. -/
def lines (text : Text) : List Text := (linesWithEndings text).map withoutEnding

/-- Every line that is not blank gets `margin` in front; blank lines become empty. -/
def indentLines (margin text : Text) : List Text :=
  (lines text).map fun line => if isBlankText line then [] else margin ++ line

/-- The lines of a text behind a margin, with no line feed after the last. -/
def indent (margin text : Text) : Text := unlines (indentLines margin text)

/-- The lines with their endings, one after the other, are the text. -/
theorem flatten_linesWithEndings (text : Text) : (linesWithEndings text).flatten = text := by
  induction text with
  | nil => rfl
  | cons c rest ih =>
    by_cases feed : c = '\n'
    · simp [linesWithEndings, feed, ih]
    · cases found : linesWithEndings rest with
      | nil => simp_all [linesWithEndings]
      | cons line lines => simp_all [linesWithEndings]

end Scaffold.Text
