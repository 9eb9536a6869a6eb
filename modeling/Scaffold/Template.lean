import Scaffold.Template.Placeholder
import Scaffold.Text.Line
import Scaffold.Text.Split

/-!
# Templates

A template is text with tokens written as a placeholder's name between two pairs of percent signs.
A token alone on its line is a block: its value takes the margin of the line, and the line
disappears when the value is empty. Every other token is replaced in place. A name that is no
placeholder stays as it is written.

Reading a template cuts it into pieces, and only filling the pieces needs values. So the values
decide neither which tokens there are nor their order.
-/
namespace Scaffold

/-- A part of a template. -/
inductive Piece where
  /-- Text that stays as it is. -/
  | literal (text : Text)
  /-- A token inside a line. -/
  | token (placeholder : Placeholder)
  /-- A line with a token alone: its margin, the token and the end of the line. -/
  | block (margin : Text) (placeholder : Placeholder) (ending : Text)
deriving DecidableEq, Repr

namespace Piece

/-- The token of a piece. -/
def placeholder? : Piece → Option Placeholder
  | literal _ => none
  | token placeholder => some placeholder
  | block _ placeholder _ => some placeholder

/-- The text of a piece, given the values of the tokens. -/
def fill (value : Placeholder → Text) : Piece → Text
  | literal text => text
  | token placeholder => value placeholder
  | block margin placeholder ending =>
    match value placeholder with
    | [] => []
    | c :: rest => Text.indent margin (c :: rest) ++ ending

end Piece

namespace Template

/-- What stands before and after the name of a token. -/
def delimiter : Text := ['%', '%']

/-- The stretches of a text between the delimiters, which are taken from the left. -/
def splitAtDelimiters : Text → List Text
  | [] => [[]]
  | '%' :: '%' :: rest => [] :: splitAtDelimiters rest
  | c :: rest =>
    match splitAtDelimiters rest with
    | [] => [[c]]
    | stretch :: stretches => (c :: stretch) :: stretches

/-- A letter or digit of ASCII. -/
def isNameChar (c : Char) : Bool := c.isAlphanum

/-- The placeholder of a name between delimiters. -/
def placeholder? (name : Text) : Option Placeholder :=
  if !name.isEmpty && name.all isNameChar then Placeholder.ofName? name else none

/-- The pieces of a line, given its stretches. A delimiter that opens no token is text, and the
next one may open a token again. -/
def inlinePieces : List Text → List Piece
  | [] => []
  | [last] => [.literal last]
  | [before, last] => [.literal before, .literal delimiter, .literal last]
  | before :: name :: after :: rest =>
    match placeholder? name with
    | some placeholder => .literal before :: .token placeholder :: inlinePieces (after :: rest)
    | none => .literal before :: .literal delimiter :: inlinePieces (name :: after :: rest)

/-- A character of a line ending. -/
def isLineEnd (c : Char) : Bool := c == '\n' || c == '\r'

/-- A line without its ending. -/
def lineBody (line : Text) : Text := Text.dropEndWhile line isLineEnd

/-- The token that stands alone on a line. -/
def blockToken? (body : Text) : Option Placeholder := do
  let opened ← Text.afterStart? (Text.trim body) delimiter
  let name ← Text.beforeEnd? opened delimiter
  placeholder? name

/-- The pieces of a line with its ending. -/
def linePieces (line : Text) : List Piece :=
  let body := lineBody line
  match blockToken? body with
  | some placeholder => [.block (Text.leadingBlanks body) placeholder (line.drop body.length)]
  | none => inlinePieces (splitAtDelimiters line)

/-- The pieces of a template. -/
def pieces (template : Text) : List Piece := (Text.linesWithEndings template).flatMap linePieces

/-- The tokens of a template in order. -/
def tokens (template : Text) : List Placeholder := (pieces template).filterMap Piece.placeholder?

/-- The text of a template, given the values of the tokens. -/
def fill (template : Text) (value : Placeholder → Text) : Text :=
  (pieces template).flatMap (Piece.fill value)

end Template

end Scaffold
