import Scaffold.Text.Line
import Scaffold.Text.Pattern.Reader

/-!
# Anchors

An anchor says where in a shared file a new region of entries goes: on a line of its own before or
after the text that a pattern matches, with the margin of that text's line.
-/
namespace Scaffold

/-- Which side of the matched text a region goes to. -/
inductive Placement where
  /-- Above the line on which the match begins. -/
  | before
  /-- Below the line on which the last character of the match stands. -/
  | after
deriving DecidableEq, Repr

/-- Where a region goes in a file that has none. -/
structure Anchor where
  /-- What is looked for. -/
  pattern : Text
  /-- Which side of the match the region goes to. -/
  placement : Placement
  /-- The region stands one step deeper than the line of the match. -/
  nested : Bool
  /-- The last match counts and not the first. -/
  last : Bool
deriving DecidableEq, Repr

/-- A place for a region. -/
structure Site where
  /-- How many lines stand above it. -/
  line : Nat
  /-- The margin of its lines. -/
  margin : Text
deriving DecidableEq, Repr

/-- Why an anchor has no place even to look for. -/
inductive AnchorFault where
  /-- The pattern is not well formed. -/
  | malformed (pattern : Text)
  /-- The match ends with a character of several bytes. Places are counted in bytes, and the place
  one byte before the end of the match lies inside that character. -/
  | insideCharacter
deriving DecidableEq, Repr

namespace Anchor

/-- The margin of one step. -/
def step : Text := "    "

/-- A character that is part of a margin. -/
def isMargin (c : Char) : Bool := c == ' ' || c == '\t'

/-- The number of line feeds in a text: the index of the line on which it ends. -/
def lineIndex (text : Text) : Nat := text.count '\n'

/-- The text in front of what the placement looks at: the first character of the match, or its
last one. -/
def textBefore (placement : Placement) (found : Pattern.Found) : Except AnchorFault Text :=
  match placement, found.text.getLast? with
  | .before, _ => .ok found.before.reverse
  | .after, none => .ok found.before.reverse
  | .after, some last =>
    if Text.isSingleByte last then .ok (found.before.reverse ++ found.text.dropLast)
    else .error .insideCharacter

/-- The place at a match in a content. -/
def siteAt (anchor : Anchor) (content : Text) (found : Pattern.Found) : Except AnchorFault Site := do
  let index := lineIndex (← textBefore anchor.placement found)
  let line := (Text.lines content).getD index []
  return {
    line := match anchor.placement with
      | .before => index
      | .after => index + 1
    margin := line.takeWhile isMargin ++ (if anchor.nested then step else []) }

/-- The match that counts. -/
def find? (anchor : Anchor) (pattern : Pattern) (content : Text) : Option Pattern.Found :=
  if anchor.last then pattern.last? content else pattern.first? content

/-- The place of a region in a content, if the pattern matches. -/
def locate (anchor : Anchor) (content : Text) : Except AnchorFault (Option Site) :=
  match Pattern.read? anchor.pattern with
  | none => .error (.malformed anchor.pattern)
  | some pattern =>
    match anchor.find? pattern content with
    | none => .ok none
    | some found => (anchor.siteAt content found).map some

end Anchor

end Scaffold
