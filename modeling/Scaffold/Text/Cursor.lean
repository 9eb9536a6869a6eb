import Scaffold.Text.CharSet

/-!
# Places in a text

A cursor stands between two characters of a text and knows both sides of it. A boundary is a
condition on a place: an end of the text, an end of a line, or an edge of a word.
-/
namespace Scaffold

/-- A place in a text. -/
structure Cursor where
  /-- The text before the place, last character first. -/
  before : Text
  /-- The text after the place. -/
  after : Text
  /-- Text remembered under the numbers of groups, ascending. -/
  groups : List (Nat × Text)
deriving DecidableEq, Repr

namespace Cursor

/-- How many characters follow. In one text this number tells places apart. -/
def left (cursor : Cursor) : Nat := cursor.after.length

/-- The text between this place and a later one. -/
def textUntil (first last : Cursor) : Text := first.after.take (first.left - last.left)

/-- Text remembered under a number; the last text of a number is kept. -/
def remember (cursor : Cursor) (index : Nat) (text : Text) : Cursor :=
  { cursor with
    groups := cursor.groups.filter (·.1 < index) ++ (index, text) ::
      cursor.groups.filter (index < ·.1) }

/-- The character before the place is in a set. -/
def follows (cursor : Cursor) (set : CharSet) : Bool := cursor.before.head?.any set.holds

/-- The character after the place is in a set. -/
def precedes (cursor : Cursor) (set : CharSet) : Bool := cursor.after.head?.any set.holds

/-- The cursors at whose places no earlier one of the list stands, apart from given places. -/
def distinctFrom (seen : List Nat) : List Cursor → List Cursor
  | [] => []
  | cursor :: rest =>
    if seen.contains cursor.left then distinctFrom seen rest
    else cursor :: distinctFrom (cursor.left :: seen) rest

/-- The first cursor of each place. -/
def distinct : List Cursor → List Cursor
  | [] => []
  | [cursor] => [cursor]
  | cursors => distinctFrom [] cursors

/-- Where a list of cursors begins does not change when later ones at the same place go. -/
theorem head?_distinct (cursors : List Cursor) : (distinct cursors).head? = cursors.head? := by
  match cursors with
  | [] => rfl
  | [_] => rfl
  | cursor :: second :: rest => simp [distinct, distinctFrom]

/-- Only cursors of the list are kept. -/
theorem mem_of_mem_distinctFrom {seen : List Nat} {cursors : List Cursor} {cursor : Cursor}
    (kept : cursor ∈ distinctFrom seen cursors) : cursor ∈ cursors := by
  induction cursors generalizing seen with
  | nil => simp [distinctFrom] at kept
  | cons first rest ih =>
    simp only [distinctFrom] at kept
    split at kept
    · exact List.mem_cons_of_mem _ (ih kept)
    · rcases List.mem_cons.mp kept with rfl | later
      · exact List.mem_cons_self
      · exact List.mem_cons_of_mem _ (ih later)

end Cursor

/-- A condition on a place in a text. -/
inductive Boundary where
  /-- The text begins here. -/
  | textStart
  /-- The text ends here. -/
  | textEnd
  /-- A line begins here; a line ends with a line feed, or also with a carriage return, which
  makes one line end with a line feed behind it. -/
  | lineStart (returns : Bool)
  /-- A line ends here, in the same sense. -/
  | lineEnd (returns : Bool)
  /-- A word character stands on one side alone. -/
  | wordEdge (words : CharSet)
  /-- Word characters stand on both sides or on none. -/
  | noWordEdge (words : CharSet)
  /-- A word begins here. -/
  | wordStart (words : CharSet)
  /-- A word ends here. -/
  | wordEnd (words : CharSet)
  /-- No word character stands before the place. -/
  | wordStartHalf (words : CharSet)
  /-- No word character stands behind the place. -/
  | wordEndHalf (words : CharSet)
deriving DecidableEq, Repr

/-- A line begins here. -/
def Cursor.atLineStart (returns : Bool) (cursor : Cursor) : Bool :=
  match cursor.before with
  | [] => true
  | '\n' :: _ => true
  | '\x0d' :: _ => returns && !cursor.precedes (.only '\n')
  | _ => false

/-- A line ends here. -/
def Cursor.atLineEnd (returns : Bool) (cursor : Cursor) : Bool :=
  match cursor.after with
  | [] => true
  | '\n' :: _ => !(returns && cursor.follows (.only '\x0d'))
  | '\x0d' :: _ => returns
  | _ => false

/-- The condition holds at a place. -/
def Boundary.holds : Boundary → Cursor → Bool
  | textStart, cursor => cursor.before.isEmpty
  | textEnd, cursor => cursor.after.isEmpty
  | lineStart returns, cursor => cursor.atLineStart returns
  | lineEnd returns, cursor => cursor.atLineEnd returns
  | wordEdge words, cursor => cursor.follows words != cursor.precedes words
  | noWordEdge words, cursor => cursor.follows words == cursor.precedes words
  | wordStart words, cursor => !cursor.follows words && cursor.precedes words
  | wordEnd words, cursor => cursor.follows words && !cursor.precedes words
  | wordStartHalf words, cursor => !cursor.follows words
  | wordEndHalf words, cursor => !cursor.precedes words

end Scaffold
