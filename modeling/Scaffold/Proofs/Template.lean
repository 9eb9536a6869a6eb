import Scaffold.Code.Layout
import Scaffold.Proofs.Text.Occurrence
import Scaffold.Proofs.Text.Unmarked

/-!
# Filled templates

A template of several lines is read and filled line by line (`Template.fill_written`), so each line
of it is found, filled, in what is written (`Template.infix_fill`).

What is written holds no delimiter if no value holds one and no percent sign of a value meets
another. A text settles this for itself if no delimiter stands inside and no percent sign at its end
(`Template.Settled`), and settled texts one behind the other are settled. A value alone on its line
is kept from what follows by the end of that line.
-/
namespace Scaffold

namespace Text

/-- A line feed divides the lines of a text. -/
theorem linesWithEndings_append_feed (before after : Text) :
    linesWithEndings (before ++ '\n' :: after) =
      linesWithEndings (before ++ ['\n']) ++ linesWithEndings after := by
  induction before with
  | nil => simp [linesWithEndings]
  | cons c before ih =>
    by_cases feed : c = '\n'
    · simp [linesWithEndings, feed, ih]
    · simp only [List.cons_append, linesWithEndings, feed, ↓reduceIte, ih]
      cases found : linesWithEndings (before ++ ['\n']) with
      | nil =>
        have whole := flatten_linesWithEndings (before ++ ['\n'])
        simp [found] at whole
      | cons line lines => rfl

end Text

namespace Template

open Text

variable {text other : Text} {lines : List String} {line : String} {piece : Piece}
  {value : Placeholder → Text}

/-- The pieces of written lines are those of each line. -/
theorem pieces_written (lines : List String) :
    pieces (Code.written lines) = lines.flatMap fun line => pieces (line.toList ++ ['\n']) := by
  induction lines with
  | nil => rfl
  | cons line rest ih =>
    have parts : Code.written (line :: rest) = line.toList ++ '\n' :: Code.written rest := by
      simp [Code.written]
    rw [parts, pieces, linesWithEndings_append_feed, List.flatMap_append, List.flatMap_cons, ← ih,
      pieces, pieces]

/-- Written lines are filled one by one. -/
theorem fill_written (lines : List String) (value : Placeholder → Text) :
    fill (Code.written lines) value =
      lines.flatMap fun line => fill (line.toList ++ ['\n']) value := by
  rw [fill, pieces_written, List.flatMap_assoc]
  rfl

/-- Only the values of its tokens matter to a template. -/
theorem fill_congr {other : Placeholder → Text}
    (same : ∀ placeholder ∈ tokens text, value placeholder = other placeholder) :
    fill text value = fill text other := by
  refine congrArg List.flatten (List.map_congr_left fun piece member => ?_)
  cases piece with
  | literal text => rfl
  | token placeholder =>
    exact same placeholder (List.mem_filterMap.mpr ⟨_, member, rfl⟩)
  | block margin placeholder ending =>
    simp only [Piece.fill, same placeholder (List.mem_filterMap.mpr ⟨_, member, rfl⟩)]

/-- A line of a template is found in what is written, filled. -/
theorem infix_fill (member : line ∈ lines) (value : Placeholder → Text) :
    fill (line.toList ++ ['\n']) value <:+: fill (Code.written lines) value := by
  rw [fill_written, List.flatMap_def]
  exact List.infix_of_mem_flatten (List.mem_map.mpr ⟨line, member, rfl⟩)

/-- No delimiter stands in the text. -/
def Resolved (text : Text) : Prop := ¬delimiter <:+: text

/-- No delimiter stands in the text, and none can begin at its end. -/
structure Settled (text : Text) : Prop where
  /-- None stands inside. -/
  resolved : Resolved text
  /-- The text does not end with a percent sign. -/
  ending : text.getLast? ≠ some '%'

/-- A text without percent signs is settled. -/
theorem Settled.of_unmarked (clean : Unmarked text) : Settled text :=
  ⟨fun inside => clean (inside.subset (by decide)), fun last => clean (List.mem_of_getLast? last)⟩

/-- What is left of a settled text without its first character is settled. -/
theorem Settled.tail {c : Char} (settled : Settled (c :: text)) : Settled text := by
  refine ⟨fun held => settled.resolved (held.trans (List.suffix_cons c text).isInfix), fun last => ?_⟩
  cases text with
  | nil => simp at last
  | cons d text => exact settled.ending (by rwa [List.getLast?_cons_cons])

/-- No delimiter begins where a settled text does. -/
theorem Settled.not_prefix {c : Char} (settled : Settled (c :: text)) :
    ¬delimiter <+: c :: text ++ other := by
  -- It would stand across the end of the settled text, which then is its first half.
  intro here
  obtain ⟨rfl, next⟩ := List.cons_prefix_cons.mp here
  cases text with
  | nil => exact settled.ending rfl
  | cons d text =>
    obtain ⟨rfl, -⟩ := List.cons_prefix_cons.mp next
    exact settled.resolved ⟨[], text, rfl⟩

/-- A delimiter in a settled text and what follows it begins behind the settled text. -/
theorem Settled.infix_behind {rest : Text} (settled : Settled text)
    (inside : delimiter ++ rest <:+: text ++ other) : delimiter ++ rest <:+: other := by
  induction text with
  | nil => exact inside
  | cons c text ih =>
    rcases List.infix_cons_iff.mp inside with here | later
    · exact absurd ((List.prefix_append _ _).trans here) settled.not_prefix
    · exact ih settled.tail later

/-- No delimiter arises behind a settled text. -/
theorem Settled.append_resolved (settled : Settled text) (resolved : Resolved other) :
    Resolved (text ++ other) := fun inside =>
  resolved (@Settled.infix_behind text other [] settled inside)

/-- Settled texts one behind the other are settled. -/
theorem Settled.append (settled : Settled text) (next : Settled other) : Settled (text ++ other) := by
  refine ⟨settled.append_resolved next.resolved, fun last => ?_⟩
  rw [List.getLast?_append] at last
  cases found : other.getLast? with
  | none => exact settled.ending (by simpa [found] using last)
  | some c => exact next.ending (by simpa [found] using last)

/-- The same of several settled texts. -/
theorem settled_flatMap {α : Type} {members : List α} {write : α → Text}
    (settled : ∀ member ∈ members, Settled (write member)) : Settled (members.flatMap write) := by
  induction members with
  | nil => exact .of_unmarked unmarked_nil
  | cons member rest ih =>
    obtain ⟨own, others⟩ := List.forall_mem_cons.mp settled
    exact own.append (ih others)

/-- A text without delimiters is settled by an ending without percent signs. -/
theorem Resolved.ended {ending : Text} (resolved : Resolved text) (clean : Unmarked ending)
    (some : ending ≠ []) : Settled (text ++ ending) := by
  have last := (Settled.of_unmarked clean).ending
  cases ending with
  | nil => exact absurd rfl some
  | cons c rest =>
    obtain ⟨other, clean⟩ := unmarked_cons.mp clean
    refine ⟨fun inside => ?_, by simpa [List.getLast?_append] using last⟩
    have absent : c ∉ delimiter := by simpa [delimiter] using other
    rcases (infix_append_cons_iff absent (by decide)).mp inside with here | later
    · exact resolved here
    · exact (Settled.of_unmarked clean).resolved later

/-- Between lines there is room: lines without delimiters are a text without any. -/
theorem resolved_unlines {lines : List Text} (resolved : ∀ line ∈ lines, Resolved line) :
    Resolved (unlines lines) := by
  match lines with
  | [] => exact (Settled.of_unmarked unmarked_nil).resolved
  | [line] => exact resolved line List.mem_cons_self
  | line :: next :: rest =>
    intro inside
    obtain ⟨own, others⟩ := List.forall_mem_cons.mp resolved
    have divided : unlines (line :: next :: rest) = line ++ '\n' :: unlines (next :: rest) := by
      simp [unlines, joinWith]
    rw [divided] at inside
    rcases (infix_append_cons_iff (by decide) (by decide)).mp inside with here | later
    · exact own here
    · exact resolved_unlines others later

/-- A text behind a margin holds no delimiter if it held none before. -/
theorem resolved_indent {margin : Text} (blank : Unmarked margin) (resolved : Resolved text) :
    Resolved (indent margin text) := by
  refine resolved_unlines fun line member => ?_
  obtain ⟨own, listed, rfl⟩ := List.mem_map.mp member
  split
  · exact (Settled.of_unmarked unmarked_nil).resolved
  · exact (Settled.of_unmarked blank).append_resolved fun inside =>
      resolved (inside.trans (infix_of_mem_lines listed))

end Template

namespace Piece

/-- The piece of a template brings no percent sign of its own and lets none of its value meet
another: the value of a token that may end in one stands alone on an ended line. -/
def isTidy (loose : Placeholder → Bool) : Piece → Bool
  | literal text => !text.contains '%'
  | token placeholder => !loose placeholder
  | block margin _ ending => !margin.contains '%' && !ending.contains '%' && !ending.isEmpty

open Template in
/-- A tidy piece is settled when it is filled with values that are, up to their ends. -/
theorem settled_fill {loose : Placeholder → Bool} {piece : Piece} {value : Placeholder → Text}
    (tidy : piece.isTidy loose = true) (resolved : ∀ placeholder, Resolved (value placeholder))
    (settled : ∀ placeholder, loose placeholder = false → Settled (value placeholder)) :
    Settled (piece.fill value) := by
  cases piece with
  | literal text =>
    exact .of_unmarked (show '%' ∉ text by simpa [isTidy] using tidy)
  | token placeholder => exact settled placeholder (by simpa [isTidy] using tidy)
  | block margin placeholder ending =>
    simp only [isTidy, Bool.and_eq_true, Bool.not_eq_true', List.contains_eq_mem,
      decide_eq_false_iff_not, List.isEmpty_eq_false_iff] at tidy
    obtain ⟨⟨blank, clean⟩, ended⟩ := tidy
    have inner := (resolved_indent blank (resolved placeholder)).ended clean ended
    simp only [Piece.fill]
    split
    · exact .of_unmarked Text.unmarked_nil
    · rename_i c rest found
      rwa [found] at inner

end Piece

end Scaffold
