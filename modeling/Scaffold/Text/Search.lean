import Scaffold.Text.CharProperty
import Scaffold.Text.Basic

/-!
# Searching

Whether a piece of text occurs in a content, anywhere or as a whole word. A whole word is not
glued to a further identifier character at an end where it has one itself.
-/
namespace Scaffold.Text

/-- The piece occurs somewhere in the content. -/
def occursIn (piece : Text) : Text → Bool
  | [] => piece.isEmpty
  | c :: rest => piece.isPrefixOf (c :: rest) || occursIn piece rest

/-- A character of an identifier. -/
def isIdentifierPart (c : Char) : Bool := isAlphanumeric c || c == '_' || c == '$'

/-- An end of the word is free: it is no identifier character itself, or none is next to it. -/
def freeEnd (ending neighbour : Option Char) : Bool :=
  !(ending.any isIdentifierPart && neighbour.any isIdentifierPart)

/-- The word stands free at the front of `text`, with `before` in front of it. -/
def standsFree (word : Text) (before : Option Char) (text : Text) : Bool :=
  freeEnd word.head? before && freeEnd word.getLast? (text.drop word.length).head?

/-- Walks the content with the number of characters still covered by the last occurrence and the
character before. -/
def wordOccursFrom (word : Text) : Nat → Option Char → Text → Bool
  | _, _, [] => false
  | covered + 1, _, c :: rest => wordOccursFrom word covered (some c) rest
  | 0, before, c :: rest =>
    if word.isPrefixOf (c :: rest) then
      standsFree word before (c :: rest) || wordOccursFrom word (word.length - 1) (some c) rest
    else wordOccursFrom word 0 (some c) rest

/-- The word occurs as a whole. Occurrences are taken from the left and without overlap; the
empty word occurs everywhere. -/
def wordOccursIn (word content : Text) : Bool :=
  word.isEmpty || wordOccursFrom word 0 none content

/-- A piece occurs exactly where the content can be cut around it. -/
theorem occursIn_iff {piece content : Text} : occursIn piece content = true ↔ piece <:+: content := by
  induction content with
  | nil => simp [occursIn, List.isEmpty_iff]
  | cons c rest ih =>
    simp only [occursIn, Bool.or_eq_true, ih, List.isPrefixOf_iff_prefix]
    exact List.infix_cons_iff.symm

end Scaffold.Text
