import Scaffold.Proofs.Template

/-!
# Reading with another vocabulary

What a template reads as depends on the vocabulary only through the token that each name finds. The
names of the tokens are literals, and a literal is slow to take apart, so a reading that is evaluated
looks the names up by their letters (`Template.pieces_eq`). A text without percent signs need not be
read at all (`Template.pieces_tidy`).
-/
namespace Scaffold

/-- The letters of the name of a token. -/
def Placeholder.spelled (placeholder : Placeholder) :
    { letters : Text // placeholder.name = letters } := by
  cases placeholder <;> exact ⟨_, String.toList_ofList⟩

namespace Template

open Text

variable {text line : Text}

/-! ## Names by their letters -/

/-- The token whose name has the letters. -/
def spelled? (name : Text) : Option Placeholder :=
  if !name.isEmpty && name.all isNameChar then
    named? Placeholder.all (fun placeholder => placeholder.spelled.val) name
  else none

/-- A name is looked up by its letters. -/
theorem placeholder?_eq_spelled? : placeholder? = spelled? := by
  have same : (fun placeholder : Placeholder => placeholder.spelled.val) = Placeholder.name :=
    funext fun placeholder => placeholder.spelled.property.symm
  funext name
  rw [spelled?, same]
  rfl

section Vocabulary

variable (vocabulary : Text → Option Placeholder)

/-- The pieces of a line, given its stretches, in a vocabulary. -/
def inlinePiecesIn : List Text → List Piece
  | [] => []
  | [last] => [.literal last]
  | [before, last] => [.literal before, .literal delimiter, .literal last]
  | before :: name :: after :: rest =>
    match vocabulary name with
    | some placeholder => .literal before :: .token placeholder :: inlinePiecesIn (after :: rest)
    | none => .literal before :: .literal delimiter :: inlinePiecesIn (name :: after :: rest)

/-- The pieces of a line with its ending, in a vocabulary. -/
def linePiecesIn (line : Text) : List Piece :=
  let body := lineBody line
  let alone := do
    let opened ← afterStart? (trim body) delimiter
    vocabulary (← beforeEnd? opened delimiter)
  match alone with
  | some placeholder => [.block (leadingBlanks body) placeholder (line.drop body.length)]
  | none => inlinePiecesIn vocabulary (splitAtDelimiters line)

end Vocabulary

/-- A template is read in the vocabulary of the placeholders. -/
theorem inlinePiecesIn_placeholder? (stretches : List Text) :
    inlinePiecesIn placeholder? stretches = inlinePieces stretches := by
  induction stretches using inlinePieces.induct with
  | case1 => rfl
  | case2 last => rfl
  | case3 before last => rfl
  | case4 before name after rest placeholder known ih =>
    simp only [inlinePiecesIn, inlinePieces, known, ih]
  | case5 before name after rest unknown ih =>
    simp only [inlinePiecesIn, inlinePieces, unknown, ih]

/-- The pieces of a template, with the names looked up by their letters. -/
theorem pieces_eq (template : Text) :
    pieces template = (linesWithEndings template).flatMap (linePiecesIn spelled?) := by
  rw [← placeholder?_eq_spelled?]
  refine congrArg List.flatten (List.map_congr_left fun line _ => ?_)
  simp only [linePiecesIn, inlinePiecesIn_placeholder?]
  rfl

/-! ## Texts without percent signs -/

/-- A text without percent signs is one stretch. -/
theorem splitAtDelimiters_of_unmarked (clean : Unmarked text) : splitAtDelimiters text = [text] := by
  induction text with
  | nil => rfl
  | cons c rest ih =>
    obtain ⟨other, clean⟩ := unmarked_cons.mp clean
    rw [splitAtDelimiters.eq_3 c rest fun _ same => absurd same other, ih clean]

/-- A line without percent signs is text. -/
theorem linePieces_of_unmarked (clean : Unmarked line) : linePieces line = [.literal line] := by
  have none : blockToken? (lineBody line) = none := by
    refine Option.eq_none_iff_forall_ne_some.mpr fun placeholder alone => ?_
    simp only [blockToken?, Option.bind_eq_bind, Option.bind_eq_some_iff] at alone
    obtain ⟨opened, start, -⟩ := alone
    have marked : '%' ∈ trim (lineBody line) := by
      rw [eq_append_of_afterStart? start]
      exact List.mem_cons_self
    have body : lineBody line ⊆ line := by
      rw [lineBody, dropEndWhile]
      intro c inside
      exact List.mem_reverse.mp ((List.dropWhile_suffix _).subset (List.mem_reverse.mp inside))
    exact clean (body ((trim_infix_self _).subset marked))
  rw [linePieces, none, splitAtDelimiters_of_unmarked clean]
  rfl

/-- A text without percent signs is tidy. -/
theorem pieces_tidy (clean : Unmarked text) (loose : Placeholder → Bool) :
    ∀ piece ∈ pieces text, piece.isTidy loose = true := by
  intro piece member
  obtain ⟨line, listed, inside⟩ := List.mem_flatMap.mp member
  have part : line ⊆ text := by
    rw [← flatten_linesWithEndings text]
    exact fun c here => List.mem_flatten.mpr ⟨line, listed, here⟩
  have own := clean.subset part
  rw [linePieces_of_unmarked own, List.mem_singleton] at inside
  subst inside
  simpa [Piece.isTidy] using show '%' ∉ line from own

end Template

end Scaffold
