import Scaffold.Text.Basic

/-!
# Order of texts

Texts are ordered by their first different character; a text comes after its beginnings. Sorting
keeps one of equal texts.
-/
namespace Scaffold.Text

/-- The first text comes strictly before the second. -/
def precedes : Text → Text → Bool
  | [], [] => false
  | [], _ :: _ => true
  | _ :: _, [] => false
  | c :: first, d :: second => if c = d then precedes first second else c.toNat < d.toNat

/-- A text put in its place among sorted ones, unless it is there. -/
def insertSorted (text : Text) : List Text → List Text
  | [] => [text]
  | head :: rest =>
    if text = head then head :: rest
    else if precedes text head then text :: head :: rest
    else head :: insertSorted text rest

/-- The texts in order, each once. -/
def sortedDistinct : List Text → List Text
  | [] => []
  | text :: rest => insertSorted text (sortedDistinct rest)

/-- Inserting adds the text and loses none. -/
theorem mem_insertSorted {text other : Text} {sorted : List Text} :
    other ∈ insertSorted text sorted ↔ other = text ∨ other ∈ sorted := by
  induction sorted with
  | nil => simp [insertSorted]
  | cons head rest ih =>
    unfold insertSorted
    split
    · rename_i same
      simp [same]
    · split
      · simp
      · simp only [List.mem_cons, ih]
        exact or_left_comm

/-- Sorting keeps the members. -/
theorem mem_sortedDistinct {text : Text} {texts : List Text} :
    text ∈ sortedDistinct texts ↔ text ∈ texts := by
  induction texts with
  | nil => simp [sortedDistinct]
  | cons head rest ih => simp [sortedDistinct, mem_insertSorted, ih]

end Scaffold.Text
