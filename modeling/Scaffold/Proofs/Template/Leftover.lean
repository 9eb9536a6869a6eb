import Mathlib.Control.Traversable.Basic
import Scaffold.Proofs.Template.Pass
import Scaffold.Proofs.Template.Vocabulary

/-!
# Tokens left over

A walk over a template looks at every delimiter from the left. What stands between two of them is a
token, or the first of them stays and the second is looked at again. So a token in what was written
stands between two delimiters that stayed, and no delimiter arises from values without percent signs.
Between those two stands a value that completes a name, or a name with one more percent sign in front
of it (`Template.substitute_leaves`).
-/
namespace Scaffold

/-- A piece with what is written for it, given a value that is not empty and holds no percent sign. -/
inductive Piece.FilledAs : Piece × Text → Prop where
  /-- Text stays. -/
  | literal (text : Text) : FilledAs (.literal text, text)
  /-- A token is replaced by the value. -/
  | token (placeholder : Placeholder) {value : Text} (some : value ≠ [])
      (clean : Text.Unmarked value) : FilledAs (.token placeholder, value)
  /-- A block is replaced by the value behind the margin of its line. -/
  | block (margin ending : Text) (placeholder : Placeholder) {value : Text} (some : value ≠ [])
      (clean : Text.Unmarked value) :
      FilledAs (.block margin placeholder ending, Text.indent margin value ++ ending)

namespace Template

open Text

variable {text other name : Text} {filled : List (Piece × Text)}

/-! ## Delimiters and settled texts -/

/-- A name in front of a delimiter that begins where a settled text does goes beyond that text. -/
theorem Settled.exists_of_prefix (settled : Settled text)
    (starts : name ++ delimiter <+: text ++ other) :
    ∃ rest, name = text ++ rest ∧ rest ++ delimiter <+: other := by
  induction text generalizing name with
  | nil => exact ⟨name, rfl, starts⟩
  | cons c text ih =>
    cases name with
    | nil => exact absurd starts settled.not_prefix
    | cons d name =>
      obtain ⟨rfl, next⟩ := List.cons_prefix_cons.mp starts
      obtain ⟨rest, rfl, behind⟩ := ih settled.tail next
      exact ⟨rest, rfl, behind⟩

/-- A settled name that ends where a delimiter begins is empty. -/
theorem Settled.eq_nil_of_prefix (settled : Settled name)
    (starts : name ++ delimiter <+: delimiter ++ other) : name = [] := by
  match name, settled with
  | [], _ => rfl
  | [c], settled =>
    obtain ⟨rfl, -⟩ := List.cons_prefix_cons.mp starts
    exact absurd rfl settled.ending
  | c :: d :: name, settled =>
    obtain ⟨rfl, next⟩ := List.cons_prefix_cons.mp starts
    obtain ⟨rfl, -⟩ := List.cons_prefix_cons.mp next
    exact absurd ⟨[], name, rfl⟩ settled.resolved

/-- The end of a settled text is settled. -/
theorem Settled.of_append (settled : Settled (text ++ other)) : Settled other := by
  induction text with
  | nil => exact settled
  | cons c text ih => exact ih settled.tail

/-- A settled name in front of a delimiter, where a settled text in front of a delimiter stands, is
that text. -/
theorem Settled.eq_of_prefix (settled : Settled text) (named : Settled name)
    (starts : name ++ delimiter <+: text ++ (delimiter ++ other)) : name = text := by
  obtain ⟨rest, rfl, behind⟩ := settled.exists_of_prefix starts
  rw [named.of_append.eq_nil_of_prefix behind, List.append_nil]

/-- A delimiter and what follows it, in a text behind a delimiter, begin with that delimiter, with its
second half, or behind it. -/
theorem infix_delimiter_append {rest : Text} (inside : delimiter ++ rest <:+: delimiter ++ text) :
    rest <+: text ∨ '%' :: rest <+: text ∨ delimiter ++ rest <:+: text := by
  rcases List.infix_cons_iff.mp inside with here | inside
  · exact .inl ((List.prefix_append_right_inj delimiter).mp here)
  · rcases List.infix_cons_iff.mp inside with half | behind
    · exact .inr (.inl (List.cons_prefix_cons.mp half).2)
    · exact .inr (.inr behind)

/-! ## Stretches -/

/-- The stretches of a text: no delimiter stands in one, and only the last may end with a percent
sign. -/
inductive Stretches : List Text → Prop where
  /-- The last stretch holds no delimiter. -/
  | last {stretch : Text} (resolved : Resolved stretch) : Stretches [stretch]
  /-- A stretch in front of a delimiter is settled. -/
  | cons {stretch : Text} {rest : List Text} (settled : Settled stretch) (later : Stretches rest) :
      Stretches (stretch :: rest)

/-- What stands in front of the first delimiter is settled. -/
theorem settled_of_cutAtDelimiter? {before after : Text}
    (cut : cutAtDelimiter? text = some (before, after)) : Settled before := by
  induction text using cutAtDelimiter?.induct generalizing before with
  | case1 => simp [cutAtDelimiter?] at cut
  | case2 rest =>
    simp only [cutAtDelimiter?, Option.some.injEq, Prod.mk.injEq] at cut
    obtain ⟨rfl, -⟩ := cut
    exact .of_unmarked unmarked_nil
  | case3 c rest other ih =>
    simp only [cutAtDelimiter?.eq_3 c rest other, Option.map_eq_some_iff, Prod.exists,
      Prod.mk.injEq] at cut
    obtain ⟨first, second, found, rfl, rfl⟩ := cut
    have whole := (eq_of_cutAtDelimiter? found).1
    have later := ih found
    cases first with
    | nil =>
      -- The character stands in front of the delimiter: a percent sign would open one with it.
      have plain : c ≠ '%' := fun same => other ('%' :: second) same whole
      exact .of_unmarked (by simpa [Unmarked] using plain.symm)
    | cons d first =>
      refine ⟨fun inside => ?_, fun last => later.ending (by rwa [List.getLast?_cons_cons] at last)⟩
      rcases List.infix_cons_iff.mp inside with here | behind
      · obtain ⟨rfl, next⟩ := List.cons_prefix_cons.mp here
        obtain ⟨rfl, -⟩ := List.cons_prefix_cons.mp next
        exact other _ rfl whole
      · exact later.resolved behind

/-- A text without a first delimiter holds none. -/
theorem resolved_of_cut_none (none : cutAtDelimiter? text = none) : Resolved text := by
  induction text using cutAtDelimiter?.induct with
  | case1 => exact (Settled.of_unmarked unmarked_nil).resolved
  | case2 rest => simp [cutAtDelimiter?] at none
  | case3 c rest other ih =>
    have later : cutAtDelimiter? rest = .none := by
      simpa [cutAtDelimiter?.eq_3 c rest other] using none
    intro inside
    rcases List.infix_cons_iff.mp inside with here | behind
    · obtain ⟨rfl, next⟩ := List.cons_prefix_cons.mp here
      obtain ⟨after, whole⟩ := next
      exact other after rfl (by simpa using whole.symm)
    · exact ih later behind

/-- A split gives stretches. -/
theorem stretches_splitAtDelimiters (text : Text) : Stretches (splitAtDelimiters text) := by
  match cut : cutAtDelimiter? text with
  | none =>
    rw [splitAtDelimiters_of_cut_none cut]
    exact .last (resolved_of_cut_none cut)
  | some (before, after) =>
    rw [(eq_of_cutAtDelimiter? cut).2]
    exact .cons (settled_of_cutAtDelimiter? cut) (stretches_splitAtDelimiters after)
termination_by text.length
decreasing_by exact length_lt_of_cutAtDelimiter? cut

/-! ## Groups between delimiters that stay -/

/-- A delimiter that stays. -/
def keptDelimiter : Piece × Text := (.literal delimiter, delimiter)

/-- The pieces are these, each filled with a value that is not empty and holds no percent sign. -/
structure Fills (filled : List (Piece × Text)) (pieces : List Piece) : Prop where
  /-- The pieces in order. -/
  read : filled.map Prod.fst = pieces
  /-- What is written for each. -/
  filledAs : ∀ member ∈ filled, Piece.FilledAs member

/-- Text that is filled stands in front as it is. -/
theorem Fills.literal {pieces : List Piece} (fills : Fills filled (.literal text :: pieces)) :
    ∃ rest, filled = (.literal text, text) :: rest ∧ Fills rest pieces := by
  obtain ⟨⟨piece, written⟩, rest, rfl, rfl, read⟩ := List.map_eq_cons_iff.mp fills.read
  obtain ⟨own, others⟩ := List.forall_mem_cons.mp fills.filledAs
  cases own with
  | literal => exact ⟨rest, rfl, read, others⟩

/-- A token that is filled is a settled value. -/
theorem Fills.token {pieces : List Piece} {placeholder : Placeholder}
    (fills : Fills filled (.token placeholder :: pieces)) :
    ∃ value rest, filled = (.token placeholder, value) :: rest ∧ Settled value ∧
      Fills rest pieces := by
  obtain ⟨⟨piece, written⟩, rest, rfl, rfl, read⟩ := List.map_eq_cons_iff.mp fills.read
  obtain ⟨own, others⟩ := List.forall_mem_cons.mp fills.filledAs
  cases own with
  | token _ some clean => exact ⟨written, rest, rfl, .of_unmarked clean, read, others⟩

/-- A value is written in the group. -/
def HoldsValue (group : List (Piece × Text)) : Prop := ∃ member ∈ group, member.1.placeholder? ≠ none

/-- **A settled name in front of a delimiter at the start of a filled line** is what the pieces up to a
delimiter that stays read as. Unless a value is among them, they are the first stretch. -/
theorem exists_group_of_prefix {stretches : List Text} (split : Stretches stretches)
    (settled : Settled name) (fills : Fills filled (inlinePieces stretches))
    (starts : name ++ delimiter <+: textOf filled) :
    ∃ group behind, filled = group ++ keptDelimiter :: behind ∧ textOf group = name ∧
      (HoldsValue group ∨ group = [(.literal name, name)] ∧ stretches.head? = some name) := by
  induction stretches using inlinePieces.induct generalizing name filled with
  | case1 => cases split
  | case2 last =>
    obtain ⟨rest, rfl, none⟩ := fills.literal
    obtain rfl : rest = [] := by simpa using none.read
    cases split with
    | last resolved =>
      refine absurd ?_ resolved
      have inside := (List.suffix_append name delimiter).isInfix.trans starts.isInfix
      simpa [textOf] using inside
    | cons _ later => cases later
  | case3 before last =>
    obtain ⟨rest, rfl, behind⟩ := fills.literal
    obtain ⟨rest, rfl, _⟩ := behind.literal
    cases split with
    | cons calm _ =>
      obtain rfl := calm.eq_of_prefix settled starts
      exact ⟨[(.literal name, name)], rest, rfl, by simp [textOf], .inr ⟨rfl, rfl⟩⟩
  | case4 before own after rest placeholder known ih =>
    simp only [inlinePieces, known] at fills
    obtain ⟨rest, rfl, behind⟩ := fills.literal
    obtain ⟨value, rest, rfl, whole, later⟩ := behind.token
    cases split with
    | cons calm more =>
      cases more with
      | cons _ others =>
        obtain ⟨past, rfl, next⟩ := calm.exists_of_prefix starts
        obtain ⟨past, rfl, behindValue⟩ := whole.exists_of_prefix next
        obtain ⟨group, last, rfl, rfl, -⟩ :=
          ih others settled.of_append.of_append later behindValue
        exact ⟨(.literal before, before) :: (.token placeholder, value) :: group, last, rfl,
          by simp [textOf],
          .inl ⟨(.token placeholder, value), by simp, by simp [Piece.placeholder?]⟩⟩
  | case5 before own after rest unknown ih =>
    simp only [inlinePieces, unknown] at fills
    obtain ⟨rest, rfl, behind⟩ := fills.literal
    obtain ⟨rest, rfl, _⟩ := behind.literal
    cases split with
    | cons calm _ =>
      obtain rfl := calm.eq_of_prefix settled starts
      exact ⟨[(.literal name, name)], rest, rfl, by simp [textOf], .inr ⟨rfl, rfl⟩⟩

/-- A name of a placeholder is letters and digits, and is read as the placeholder. -/
theorem placeholder?_name (placeholder : Placeholder) :
    placeholder? placeholder.name = some placeholder ∧ placeholder.name ≠ [] ∧
      ∀ c ∈ placeholder.name, isNameChar c = true := by
  have vocabulary : ∀ member ∈ Placeholder.all, spelled? member.spelled.val = some member ∧
      member.spelled.val ≠ [] ∧ ∀ c ∈ member.spelled.val, isNameChar c = true := by decide +kernel
  rw [placeholder?_eq_spelled?, placeholder.spelled.property]
  exact vocabulary placeholder placeholder.mem_all

/-- What a group of pieces between two delimiters reads as when a token arises around it: the name of
the token, or that name behind one more percent sign. -/
def Reads (placeholder : Placeholder) (group : List (Piece × Text)) : Prop :=
  textOf group = placeholder.name ∨ textOf group = '%' :: placeholder.name

/-- What a group reads as is settled. -/
theorem settled_name (placeholder : Placeholder) :
    Settled placeholder.name ∧ Settled ('%' :: placeholder.name) := by
  obtain ⟨-, some, plain⟩ := placeholder?_name placeholder
  have clean : Unmarked placeholder.name := fun inside => absurd (plain '%' inside) (by decide)
  have calm := Settled.of_unmarked clean
  refine ⟨calm, fun inside => ?_, fun last => ?_⟩
  · rcases List.infix_cons_iff.mp inside with here | behind
    · obtain ⟨_, rest⟩ := List.cons_prefix_cons.mp here
      exact clean (rest.subset List.mem_cons_self)
    · exact calm.resolved behind
  · rw [List.getLast?_cons, List.getLast?_eq_some_getLast some] at last
    exact calm.ending (by rw [List.getLast?_eq_some_getLast some]; simpa using last)

/-- Two delimiters that stay stand around a group of pieces that reads as the token needs it: with a
value among them, or as one stretch, the name behind one more percent sign. -/
def LeftIn (placeholder : Placeholder) (filled : List (Piece × Text)) : Prop :=
  ∃ front group behind, filled = front ++ keptDelimiter :: (group ++ keptDelimiter :: behind) ∧
    Reads placeholder group ∧
    (HoldsValue group ∨ group = [(.literal ('%' :: placeholder.name), '%' :: placeholder.name)])

/-- **A token in a filled line stands around a group between delimiters that stay.** -/
theorem exists_group_of_infix {stretches : List Text} {placeholder : Placeholder}
    (split : Stretches stretches) (fills : Fills filled (inlinePieces stretches))
    (inside : placeholder.written <:+: textOf filled) :
    LeftIn placeholder filled := by
  have opened : ∀ {text : Text}, placeholder.written <:+: text → ¬Resolved text :=
    fun held resolved => resolved ((List.prefix_append _ _).isInfix.trans held)
  have closed : ∀ {front text : Text}, front ++ delimiter <+: text → ¬Resolved text :=
    fun starts resolved => resolved ((List.suffix_append _ _).isInfix.trans starts.isInfix)
  induction stretches using inlinePieces.induct generalizing filled with
  | case1 => cases split
  | case2 last =>
    obtain ⟨rest, rfl, none⟩ := fills.literal
    obtain rfl : rest = [] := by simpa using none.read
    cases split with
    | last resolved => exact absurd resolved (opened (by simpa [textOf] using inside))
    | cons _ later => cases later
  | case3 before last =>
    obtain ⟨rest, rfl, behind⟩ := fills.literal
    obtain ⟨rest, rfl, ends⟩ := behind.literal
    obtain ⟨rest, rfl, none⟩ := ends.literal
    obtain rfl : rest = [] := by simpa using none.read
    cases split with
    | cons calm others =>
      have resolved : Resolved (last ++ []) := by
        cases others with
        | last resolved => rwa [List.append_nil]
        | cons _ later => cases later
      rcases infix_delimiter_append (calm.infix_behind inside) with here | half | later
      · exact absurd resolved (closed here)
      · exact absurd resolved (closed (show '%' :: placeholder.name ++ delimiter <+: _ from half))
      · exact absurd resolved (opened later)
  | case4 before own after rest token known ih =>
    simp only [inlinePieces, known] at fills
    obtain ⟨rest, rfl, behind⟩ := fills.literal
    obtain ⟨value, rest, rfl, whole, later⟩ := behind.token
    cases split with
    | cons calm more =>
      cases more with
      | cons _ others =>
        obtain ⟨front, group, last, rfl, reads⟩ :=
          ih others later (whole.infix_behind (calm.infix_behind inside))
        exact ⟨(.literal before, before) :: (.token token, value) :: front, group, last, rfl, reads⟩
  | case5 before own after rest unknown ih =>
    simp only [inlinePieces, unknown] at fills
    obtain ⟨rest, rfl, behind⟩ := fills.literal
    obtain ⟨rest, rfl, later⟩ := behind.literal
    obtain ⟨name, marked⟩ := settled_name placeholder
    cases split with
    | cons calm others =>
      rcases infix_delimiter_append (calm.infix_behind inside) with here | half | deeper
      · obtain ⟨group, last, rfl, reads, held | ⟨-, same⟩⟩ :=
          exists_group_of_prefix others name later here
        · exact ⟨[(.literal before, before)], group, last, rfl, .inl reads, .inl held⟩
        · -- The name stands between two delimiters, so the first of them would not stay.
          obtain rfl : own = placeholder.name := by simpa using same
          rw [(placeholder?_name placeholder).1] at unknown
          cases unknown
      · obtain ⟨group, last, rfl, reads, held⟩ := exists_group_of_prefix others marked later half
        exact ⟨[(.literal before, before)], group, last, rfl, .inr reads, held.imp_right And.left⟩
      · obtain ⟨front, group, last, rfl, reads⟩ := ih others later deeper
        exact ⟨(.literal before, before) :: keptDelimiter :: front, group, last, rfl, reads⟩

/-! ## Lines -/

/-- Pieces one behind the other are filled one behind the other. -/
theorem Fills.append {front behind : List Piece} (fills : Fills filled (front ++ behind)) :
    ∃ before after, filled = before ++ after ∧ Fills before front ∧ Fills after behind := by
  obtain ⟨before, after, rfl, first, second⟩ := List.map_eq_append_iff.mp fills.read
  obtain ⟨early, late⟩ := List.forall_mem_append.mp fills.filledAs
  exact ⟨before, after, rfl, ⟨first, early⟩, ⟨second, late⟩⟩

/-- A block that is filled is its value behind the margin, with the end of the line. -/
theorem Fills.block {margin ending : Text} {placeholder : Placeholder}
    (fills : Fills filled [.block margin placeholder ending]) :
    ∃ value, textOf filled = indent margin value ++ ending ∧ Unmarked value := by
  obtain ⟨⟨piece, written⟩, rest, rfl, rfl, read⟩ := List.map_eq_cons_iff.mp fills.read
  obtain rfl : rest = [] := by simpa using read
  cases fills.filledAs _ List.mem_cons_self with
  | block _ _ _ some clean => exact ⟨_, by simp [textOf], clean⟩

/-- A line with its ending stays ended when it is filled. -/
theorem Fills.ended {line : Text} (fills : Fills filled (linePieces (line ++ ['\n']))) :
    ∃ front, textOf filled = front ++ ['\n'] := by
  unfold linePieces at fills
  simp only at fills
  split at fills
  · obtain ⟨value, text, -⟩ := fills.block
    obtain ⟨front, ending⟩ := drop_lineBody line
    exact ⟨_, by rw [text, ending, ← List.append_assoc]⟩
  · obtain ⟨before, last, split⟩ := splitAtDelimiters_feed line
    obtain ⟨front, pieces⟩ := inlinePieces_concat before (last ++ ['\n'])
    rw [split, pieces] at fills
    obtain ⟨early, late, rfl, -, ends⟩ := fills.append
    obtain ⟨rest, rfl, none⟩ := ends.literal
    obtain rfl : rest = [] := by simpa using none.read
    exact ⟨textOf early ++ last, by simp [textOf]⟩

/-- A block token stands behind blanks, in front of the end of its line: neither holds a percent
sign. -/
theorem unmarked_around (line : Text) : Unmarked (leadingBlanks (lineBody line)) ∧
    Unmarked (line.drop (lineBody line).length) := by
  constructor
  · intro inside
    exact absurd (List.all_eq_true.mp List.all_takeWhile '%' inside) (by decide)
  · intro inside
    exact absurd ((lineBody_append_drop line).2 '%' inside) (by decide)

/-- A token in what was written for a line. -/
theorem leftIn_linePieces {line : Text} {placeholder : Placeholder}
    (fills : Fills filled (linePieces line)) (inside : placeholder.written <:+: textOf filled) :
    LeftIn placeholder filled := by
  unfold linePieces at fills
  simp only at fills
  split at fills
  · -- Nothing that is written for a block is a percent sign.
    obtain ⟨value, text, clean⟩ := fills.block
    obtain ⟨blank, ending⟩ := unmarked_around line
    have indented : Unmarked (indent (leadingBlanks (lineBody line)) value) :=
      (clean.indentLines blank).joinWith (by simp)
    have none : Unmarked (textOf filled) := by
      rw [text]
      exact unmarked_append.mpr ⟨indented, ending⟩
    exact absurd (inside.subset List.mem_cons_self) none
  · exact exists_group_of_infix (stretches_splitAtDelimiters line) fills inside

/-- What is left in a part of what was written is left in the whole. -/
theorem LeftIn.around {placeholder : Placeholder} (left : LeftIn placeholder filled)
    (before after : List (Piece × Text)) : LeftIn placeholder (before ++ (filled ++ after)) := by
  obtain ⟨front, group, behind, rfl, reads⟩ := left
  exact ⟨before ++ front, group, behind ++ after, by simp, reads⟩

/-- A line feed is in no token. -/
theorem feed_notMem_written (placeholder : Placeholder) : '\n' ∉ placeholder.written := by
  have plain := (placeholder?_name placeholder).2.2
  intro inside
  simp only [Placeholder.written, delimiter, List.mem_append] at inside
  rcases inside with opening | name | closing
  · simp at opening
  · exact absurd (plain '\n' name) (by decide)
  · simp at closing

/-- A token in what was written for lines: it does not go beyond the end of a line. -/
theorem leftIn_lines {lines : List Text} {placeholder : Placeholder}
    (ended : ∀ line ∈ lines.dropLast, ∃ front, line = front ++ ['\n'])
    (fills : Fills filled (lines.flatMap linePieces))
    (inside : placeholder.written <:+: textOf filled) : LeftIn placeholder filled := by
  induction lines generalizing filled with
  | nil =>
    obtain rfl : filled = [] := by simpa using fills.read
    exact absurd (List.infix_nil.mp inside) (List.cons_ne_nil _ _)
  | cons line lines ih =>
    obtain ⟨own, others, rfl, first, later⟩ := fills.append
    cases lines with
    | nil =>
      obtain rfl : others = [] := by simpa using later.read
      rw [List.append_nil] at inside ⊢
      exact leftIn_linePieces first inside
    | cons next lines =>
      rw [List.dropLast_cons_cons, List.forall_mem_cons] at ended
      obtain ⟨⟨front, rfl⟩, rest⟩ := ended
      obtain ⟨text, written⟩ := first.ended
      have whole : textOf (own ++ others) = text ++ '\n' :: textOf others := by
        rw [textOf, List.flatMap_append, ← textOf, written, List.append_assoc]
        rfl
      rw [whole, infix_append_cons_iff (feed_notMem_written placeholder) (List.cons_ne_nil _ _)]
        at inside
      rcases inside with here | behind
      · have held : placeholder.written <:+: textOf own :=
          written ▸ here.trans (List.prefix_append text ['\n']).isInfix
        exact (leftIn_linePieces first held).around [] others
      · simpa using (ih rest later behind).around own []

/-- Every line but the last is ended. -/
theorem exists_of_mem_dropLast {template line : Text}
    (member : line ∈ (linesWithEndings template).dropLast) : ∃ front, line = front ++ ['\n'] := by
  induction template generalizing line with
  | nil => simp [linesWithEndings] at member
  | cons c rest ih =>
    rw [linesWithEndings] at member
    cases found : linesWithEndings rest with
    | nil => split at member <;> simp_all
    | cons next lines =>
      rw [found] at member ih
      split at member
      · rw [List.dropLast_cons_cons] at member
        rcases List.mem_cons.mp member with rfl | later
        · exact ⟨[], rfl⟩
        · exact ih later
      · cases lines with
        | nil => simp at member
        | cons other lines =>
          simp only [List.dropLast_cons_cons] at member ih
          rcases List.mem_cons.mp member with rfl | later
          · obtain ⟨front, rfl⟩ := ih List.mem_cons_self
            exact ⟨c :: front, rfl⟩
          · exact ih (List.mem_cons_of_mem _ later)

/-- **A token in what was written for a template is left between two delimiters that stay.** -/
theorem leftIn_pieces {template : Text} {placeholder : Placeholder}
    (fills : Fills filled (pieces template)) (inside : placeholder.written <:+: textOf filled) :
    LeftIn placeholder filled :=
  leftIn_lines (fun _ => exists_of_mem_dropLast) fills inside

/-! ## The whole walk -/

/-- A value that fills a token: it is not empty and holds no percent sign. -/
def Clean (value : Text) : Prop := value ≠ [] ∧ Unmarked value

/-- As many clean values as there are tokens fill the pieces. -/
theorem fills_withTexts {pieces : List Piece} {values : List Text}
    (enough : values.length = (tokensOf pieces).length) (clean : ∀ value ∈ values, Clean value) :
    Fills (withTexts pieces values) pieces := by
  induction pieces generalizing values with
  | nil => exact ⟨rfl, by simp [withTexts]⟩
  | cons piece rest ih =>
    cases piece with
    | literal text =>
      obtain ⟨read, filledAs⟩ := ih enough clean
      exact ⟨by simp [withTexts, read], List.forall_mem_cons.mpr ⟨.literal text, filledAs⟩⟩
    | token placeholder =>
      obtain ⟨value, values, rfl⟩ := List.exists_cons_of_length_eq_add_one enough
      obtain ⟨⟨some, unmarked⟩, others⟩ := List.forall_mem_cons.mp clean
      obtain ⟨read, filledAs⟩ := ih (Nat.succ.inj enough) others
      exact ⟨by simp [withTexts, read],
        List.forall_mem_cons.mpr ⟨.token placeholder some unmarked, filledAs⟩⟩
    | block margin placeholder ending =>
      obtain ⟨value, values, rfl⟩ := List.exists_cons_of_length_eq_add_one enough
      obtain ⟨⟨some, unmarked⟩, others⟩ := List.forall_mem_cons.mp clean
      obtain ⟨read, filledAs⟩ := ih (Nat.succ.inj enough) others
      obtain ⟨c, more, rfl⟩ := List.exists_cons_of_ne_nil some
      exact ⟨by simp [withTexts, read],
        List.forall_mem_cons.mpr ⟨.block margin ending placeholder some unmarked, filledAs⟩⟩

variable {σ : Type} {ask : Placeholder → StateM σ Text}

/-- The values of tokens that are asked for one by one. -/
def answers (ask : Placeholder → StateM σ Text) (tokens : List Placeholder) (state : σ) : List Text :=
  Id.run ((tokens.mapM ask).run' state)

/-- The first token is asked for in the state, the others in the state that is left behind. -/
theorem answers_cons (placeholder : Placeholder) (tokens : List Placeholder) (state : σ) :
    answers ask (placeholder :: tokens) state = Id.run ((ask placeholder).run' state) ::
      answers ask tokens (Id.run ((ask placeholder).run state)).2 := by
  simp [answers, List.mapM_cons]

/-- There is a clean value for each token if asking gives clean values. -/
theorem clean_answers (clean : ∀ placeholder state, Clean (Id.run ((ask placeholder).run' state)))
    (tokens : List Placeholder) (state : σ) :
    (answers ask tokens state).length = tokens.length ∧
      ∀ value ∈ answers ask tokens state, Clean value := by
  induction tokens generalizing state with
  | nil => exact ⟨rfl, by simp [answers]⟩
  | cons placeholder rest ih =>
    rw [answers_cons]
    obtain ⟨length, others⟩ := ih (Id.run ((ask placeholder).run state)).2
    exact ⟨by simp [length], List.forall_mem_cons.mpr ⟨clean placeholder state, others⟩⟩

/-- What a walk writes, started in a state. -/
theorem run_substitute (ask : Placeholder → StateM σ Text) (template : Text) (state : σ) :
    Id.run ((substitute ask template).run' state) =
      textOf (withTexts (pieces template) (answers ask (tokens template) state)) := by
  rw [substitute_eq]
  simp [answered, answers, assemble, tokens]

/-- **Which tokens a walk leaves**, whatever values it is given, if none is empty or holds a percent
sign. Unless the template has the name of a token with one more percent sign in front of it between
two delimiters that stay, that token is in what is written exactly where values and the text around
them, between two delimiters that stay, read as its name, or as its name behind a percent sign: no
value is read again. -/
theorem substitute_leaves (ask : Placeholder → StateM σ Text)
    (clean : ∀ placeholder state, Clean (Id.run ((ask placeholder).run' state)))
    (template : Text) (state : σ) {placeholder : Placeholder}
    (paired : ¬[.literal delimiter, .literal ('%' :: placeholder.name), .literal delimiter] <:+:
      pieces template) :
    placeholder.written <:+: Id.run ((substitute ask template).run' state) ↔
      ∃ front group behind, withTexts (pieces template) (answers ask (tokens template) state) =
          front ++ keptDelimiter :: (group ++ keptDelimiter :: behind) ∧
        HoldsValue group ∧ Reads placeholder group := by
  obtain ⟨enough, values⟩ := clean_answers clean (tokens template) state
  have fills := fills_withTexts enough values
  rw [run_substitute]
  constructor
  · intro inside
    obtain ⟨front, group, behind, whole, reads, held | rfl⟩ := leftIn_pieces fills inside
    · exact ⟨front, group, behind, whole, held, reads⟩
    · refine absurd ?_ paired
      rw [← fills.read, whole]
      exact ⟨front.map Prod.fst, behind.map Prod.fst, by simp [keptDelimiter]⟩
  · rintro ⟨front, group, behind, whole, -, reads⟩
    have parts : textOf (front ++ keptDelimiter :: (group ++ keptDelimiter :: behind)) =
        textOf front ++ (delimiter ++ (textOf group ++ (delimiter ++ textOf behind))) := by
      simp [textOf, keptDelimiter]
    rw [whole, parts]
    rcases reads with name | marked
    · exact ⟨textOf front, textOf behind, by simp [name, Placeholder.written]⟩
    · exact ⟨textOf front ++ ['%'], textOf behind, by
        simp [marked, Placeholder.written, delimiter]⟩

/-- Two names that are none stand around a token, and its value completes the name of another. -/
theorem modelName_written_again :
    Id.run (substitute (fun _ => pure "Name".toList) "%%model%%casts%%%%".toList) =
        Placeholder.modelName.written ∧
      Clean "Name".toList := by
  have known : Id.run (substitute (fun _ => pure "Name".toList) "%%model%%casts%%%%".toList) =
      fill "%%model%%casts%%%%".toList fun _ => "Name".toList :=
    substitute_pure (m := Id) (fun _ => rfl) _
  have filled : fill "%%model%%casts%%%%".toList (fun _ => "Name".toList) =
      Placeholder.modelName.written := by
    rw [fill, pieces_eq]
    decide +kernel
  exact ⟨known.trans filled, by decide, by unfold Unmarked; decide⟩

/-- A token between two delimiters that stay, with its own name as its value. -/
theorem substitute_leaves_modelName :
    Placeholder.modelName.written <:+:
      Id.run ((substitute (fun placeholder => (pure placeholder.name : StateM Nat Text))
        "%%%%modelName%%%%".toList).run' 0) := by
  have clean : ∀ placeholder : Placeholder, Clean placeholder.name := fun placeholder =>
    have ⟨_, filled, plain⟩ := placeholder?_name placeholder
    ⟨filled, fun inside => absurd (plain '%' inside) (by decide)⟩
  refine (substitute_leaves (fun placeholder => pure placeholder.name)
    (fun placeholder _ => clean placeholder) _ 0 (by decide +kernel)).mpr
    ⟨[(.literal [], [])], [(.literal [], []), (.token .modelName, Placeholder.modelName.name),
      (.literal [], [])], [(.literal [], [])], by decide +kernel, ?_, .inl (by decide +kernel)⟩
  exact ⟨(.token .modelName, Placeholder.modelName.name), by simp, by simp [Piece.placeholder?]⟩

end Template

end Scaffold
