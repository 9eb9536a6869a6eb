import Scaffold.Text.Basic

/-!
# Blanks

A blank is a character with the Unicode property White_Space: 25 code points. Trimming leaves the
blanks at the ends of a text out.
-/
namespace Scaffold.Text

/-- The blanks, as closed ranges of code points, ascending. -/
def blankRanges : List (Nat × Nat) :=
  [(0x09, 0x0D), (0x20, 0x20), (0x85, 0x85), (0xA0, 0xA0), (0x1680, 0x1680), (0x2000, 0x200A),
    (0x2028, 0x2029), (0x202F, 0x202F), (0x205F, 0x205F), (0x3000, 0x3000)]

/-- A character with the property White_Space. -/
def isBlank (c : Char) : Bool :=
  blankRanges.any fun (first, last) => first ≤ c.toNat && c.toNat ≤ last

/-- The text without the blanks it begins with. -/
def trimStart (text : Text) : Text := text.dropWhile isBlank

/-- The text without the blanks it ends with. -/
def trimEnd (text : Text) : Text := dropEndWhile text isBlank

/-- The text without the blanks at its ends. -/
def trim (text : Text) : Text := trimEnd (trimStart text)

/-- Nothing but blanks. -/
def isBlankText (text : Text) : Bool := text.all isBlank

/-- The blanks that a text begins with. -/
def leadingBlanks (text : Text) : Text := text.takeWhile isBlank

/-- The trimmed text, unless nothing is left of it. -/
def nonBlank? (text : Text) : Option Text :=
  match trim text with
  | [] => none
  | c :: rest => some (c :: rest)

/-- Every character that the standard library calls white space is blank. -/
theorem isBlank_of_isWhitespace {c : Char} (white : c.isWhitespace = true) : isBlank c = true := by
  simp only [Char.isWhitespace, Bool.or_eq_true, decide_eq_true_eq] at white
  rcases white with ((rfl | rfl) | rfl) | rfl <;> decide

/-- A text whose ends are not blank is its own trimmed form. -/
theorem trim_eq_self {text : Text} (first : ∀ c, text.head? = some c → isBlank c = false)
    (last : ∀ c, text.getLast? = some c → isBlank c = false) : trim text = text := by
  have start : trimStart text = text := by
    cases text with
    | nil => rfl
    | cons c rest => simp [trimStart, List.dropWhile, first c rfl]
  rw [trim, start, trimEnd, dropEndWhile]
  cases reversed : text.reverse with
  | nil => simpa using reversed
  | cons c rest =>
    have lastChar : text.getLast? = some c := by
      rw [← List.head?_reverse, reversed]
      rfl
    rw [List.dropWhile, last c lastChar, ← reversed, List.reverse_reverse]

end Scaffold.Text
