import Scaffold.Proofs.Text.Atom
import Scaffold.Proofs.Text.Plain
import Scaffold.Text.Search

/-!
# Occurrences across lines

A piece of text without line feed that occurs in a content occurs in one of its rows, anywhere
(`rowWise_occursIn`) or as a whole word (`rowWise_wordOccursIn`): a row ends where a line feed
or a carriage return stands, which are parts of no identifier, so the ends of a row leave a word
as free as it is. What is found row by row stays found in a text that carries the first one
(`RowWise.of_carried`). An identifier is found as a whole word wherever it stands between characters
that are none of identifiers (`IsIdentifier.wordOccursIn_between`).
-/
namespace Scaffold.Text

/-- A beginning of a text that does not hold the character at a place ends before it. -/
theorem prefix_append_cons {piece before after : Text} {c : Char} (absent : c ∉ piece)
    (starts : piece <+: before ++ c :: after) : piece <+: before := by
  induction piece generalizing before with
  | nil => exact List.nil_prefix
  | cons d piece ih =>
    cases before with
    | nil =>
      obtain ⟨rfl, -⟩ := List.cons_prefix_cons.mp starts
      exact absurd List.mem_cons_self absent
    | cons e before =>
      obtain ⟨rfl, more⟩ := List.cons_prefix_cons.mp starts
      have rest := ih (fun inside => absent (List.mem_cons_of_mem _ inside)) more
      exact List.cons_prefix_cons.mpr ⟨rfl, rest⟩

/-- A piece that does not hold a character begins a text before that character exactly when it
begins the part before it. -/
theorem prefix_append_cons_iff {piece before after : Text} {c : Char} (absent : c ∉ piece) :
    piece <+: before ++ c :: after ↔ piece <+: before :=
  ⟨prefix_append_cons absent, fun starts => starts.trans (List.prefix_append _ _)⟩

/-- A non-empty piece that does not hold a character lies on one of its sides. -/
theorem infix_append_cons_iff {piece before after : Text} {c : Char} (absent : c ∉ piece)
    (some : piece ≠ []) :
    piece <:+: before ++ c :: after ↔ piece <:+: before ∨ piece <:+: after := by
  induction before with
  | nil =>
    have here : ¬piece <+: c :: after := by
      intro starts
      exact some (List.prefix_nil.mp (@prefix_append_cons _ [] _ _ absent starts))
    simp [List.infix_cons_iff, here, some]
  | cons d before ih =>
    rw [List.cons_append, List.infix_cons_iff, List.infix_cons_iff, ih, ← List.cons_append,
      prefix_append_cons_iff absent, or_assoc]

/-- A character that neither belongs to a word nor is part of an identifier divides the search for
the word. -/
theorem wordOccursFrom_append_cons {word : Text} {c : Char} (absent : c ∉ word)
    (some : word ≠ []) (divides : isIdentifierPart c = false) (after : Text) :
    ∀ (before : Text) (covered : Nat) (previous : Option Char), covered ≤ before.length →
      wordOccursFrom word covered previous (before ++ c :: after) =
        (wordOccursFrom word covered previous before ||
          wordOccursFrom word 0 (Option.some c) after) := by
  intro before
  induction before with
  | nil =>
    intro covered previous within
    obtain rfl : covered = 0 := by simpa using within
    have here : word.isPrefixOf (c :: after) = false := by
      rw [Bool.eq_false_iff]
      intro starts
      have empty := @prefix_append_cons _ [] _ _ absent (List.isPrefixOf_iff_prefix.mp starts)
      exact some (List.prefix_nil.mp empty)
    simp [wordOccursFrom, here]
  | cons d before ih =>
    intro covered previous within
    rw [List.cons_append]
    cases covered with
    | succ more =>
      simp only [wordOccursFrom]
      exact ih more _ (by simpa using within)
    | zero =>
      have sides : word.isPrefixOf (d :: (before ++ c :: after)) =
          word.isPrefixOf (d :: before) := by
        rw [Bool.eq_iff_iff, List.isPrefixOf_iff_prefix, List.isPrefixOf_iff_prefix]
        exact @prefix_append_cons_iff _ (d :: before) _ _ absent
      simp only [wordOccursFrom, sides]
      split
      · rename_i starts
        have fits : word.length ≤ (d :: before).length :=
          (List.isPrefixOf_iff_prefix.mp starts).length_le
        -- Behind the word stands the same character, or the divider in place of the end.
        have free : standsFree word previous (d :: (before ++ c :: after)) =
            standsFree word previous (d :: before) := by
          unfold standsFree
          congr 1
          rw [← List.cons_append, List.drop_append_of_le_length fits]
          cases (d :: before).drop word.length with
          | nil => simp [freeEnd, divides]
          | cons e rest => rfl
        rw [free, ih _ _ (by simp only [List.length_cons] at fits; omega), Bool.or_assoc]
      · exact ih 0 _ (Nat.zero_le _)

/-- A character that is no part of an identifier leaves the search behind it as at the front. -/
theorem wordOccursFrom_some {word : Text} {c : Char} (divides : isIdentifierPart c = false)
    (content : Text) :
    wordOccursFrom word 0 (some c) content = wordOccursFrom word 0 none content := by
  cases content with
  | nil => rfl
  | cons d rest => simp [wordOccursFrom, standsFree, freeEnd, divides]

/-- A whole word that does not hold a dividing character occurs on one of its sides. -/
theorem wordOccursIn_append_cons {word : Text} {c : Char} (absent : c ∉ word)
    (divides : isIdentifierPart c = false) (before after : Text) :
    wordOccursIn word (before ++ c :: after) =
      (wordOccursIn word before || wordOccursIn word after) := by
  by_cases empty : word = []
  · simp [wordOccursIn, empty]
  · have filled : word.isEmpty = false := by simpa using empty
    simp only [wordOccursIn, filled, Bool.false_or]
    rw [wordOccursFrom_append_cons absent empty divides after before 0 none (Nat.zero_le _),
      wordOccursFrom_some divides]

/-- A word alone occurs as a whole. -/
theorem wordOccursIn_self (word : Text) : wordOccursIn word word = true := by
  cases word with
  | nil => rfl
  | cons c rest => simp [wordOccursIn, wordOccursFrom, standsFree, freeEnd]

/-- A line feed is no part of an identifier. -/
theorem isIdentifierPart_feed : isIdentifierPart '\n' = false := by decide

/-- A carriage return is no part of an identifier. -/
theorem isIdentifierPart_return : isIdentifierPart '\x0d' = false := by decide

/-- A way of finding something in a text that a line feed divides. -/
structure RowWise (found : Text → Bool) : Prop where
  /-- What is found on both sides of a line feed is found on one of them. -/
  feed : ∀ before after, found (before ++ '\n' :: after) = (found before || found after)
  /-- A carriage return at the end of a row hides nothing. -/
  ending : ∀ row, '\n' ∉ row → found (row ++ ['\x0d']) = true → found row = true
  /-- What is found in the empty text is found everywhere. -/
  empty : found [] = true → ∀ text, found text = true

namespace RowWise

variable {found : Text → Bool}

/-- What is found in a text is found in one of its rows. -/
theorem iff_rows (rowWise : RowWise found) (text : Text) :
    found text = true ↔ ∃ row ∈ rows text, found row = true := by
  have joined : ∀ all : List Text, all ≠ [] →
      (found (unlines all) = true ↔ ∃ row ∈ all, found row = true) := by
    intro all some
    induction all with
    | nil => exact absurd rfl some
    | cons row rest ih =>
      cases rest with
      | nil => simp [unlines, joinWith]
      | cons next more =>
        have later := ih (by simp)
        have split : unlines (row :: next :: more) = row ++ '\n' :: unlines (next :: more) := by
          simp [unlines, joinWith]
        rw [split, rowWise.feed, Bool.or_eq_true, later]
        simp
  rw [← joined (rows text) (rows_ne_nil text), unlines_rows]

/-- What is found in a text is found in one that carries it. -/
theorem of_carried (rowWise : RowWise found) {text other : Text} (carried : Carried text other)
    (here : found text = true) : found other = true := by
  obtain ⟨row, member, inRow⟩ := (rowWise.iff_rows text).mp here
  rcases carried row member with rfl | same | ⟨kept, same, rfl⟩
  · exact rowWise.empty inRow other
  · exact (rowWise.iff_rows other).mpr ⟨row, same, inRow⟩
  · have single := feed_notMem_of_mem_rows same
    exact (rowWise.iff_rows other).mpr ⟨kept, same, rowWise.ending kept single inRow⟩

/-- What is found in one of two ways. -/
theorem or {other : Text → Bool} (first : RowWise found) (second : RowWise other) :
    RowWise fun text => found text || other text := by
  constructor
  · intro before after
    simp only [first.feed, second.feed]
    ac_rfl
  · intro row single here
    rw [Bool.or_eq_true] at here ⊢
    exact here.imp (first.ending row single) (second.ending row single)
  · intro here text
    rw [Bool.or_eq_true] at here ⊢
    exact here.imp (first.empty · text) (second.empty · text)

end RowWise

/-- A text of one line: it holds neither a line feed nor a carriage return. -/
def IsOneLine (text : Text) : Prop := '\n' ∉ text ∧ '\x0d' ∉ text

/-- Searching for a piece of one line is done row by row. -/
theorem rowWise_occursIn {piece : Text} (line : IsOneLine piece) : RowWise (occursIn piece) := by
  by_cases empty : piece = []
  · have always : ∀ text, occursIn piece text = true := by
      intro text
      rw [occursIn_iff, empty]
      exact List.nil_infix
    exact ⟨fun _ _ => by simp [always], fun row _ _ => always row, fun _ text => always text⟩
  · constructor
    · intro before after
      rw [Bool.eq_iff_iff, Bool.or_eq_true, occursIn_iff, occursIn_iff, occursIn_iff,
        infix_append_cons_iff line.1 empty]
    · intro row _ found
      rw [occursIn_iff, infix_append_cons_iff line.2 empty] at found
      rcases found with inside | behind
      · exact occursIn_iff.mpr inside
      · exact absurd (List.infix_nil.mp behind) empty
    · intro found
      exact absurd (List.infix_nil.mp (occursIn_iff.mp found)) empty

/-- Searching for a whole word of one line is done row by row. -/
theorem rowWise_wordOccursIn {word : Text} (line : IsOneLine word) :
    RowWise (wordOccursIn word) := by
  constructor
  · exact wordOccursIn_append_cons line.1 isIdentifierPart_feed
  · intro row _ found
    rw [wordOccursIn_append_cons line.2 isIdentifierPart_return, Bool.or_eq_true] at found
    rcases found with inside | behind
    · exact inside
    · -- Nothing but the empty word is found behind the end.
      have empty : word = [] := by simpa [wordOccursIn, wordOccursFrom] using behind
      simp [wordOccursIn, empty]
  · intro found text
    have empty : word = [] := by simpa [wordOccursIn, wordOccursFrom] using found
    simp [wordOccursIn, empty]

variable {word text : Text}

/-- An identifier: characters of identifiers, and at least one. -/
structure IsIdentifier (text : Text) : Prop where
  /-- There is a character. -/
  filled : text ≠ []
  /-- All are characters of identifiers. -/
  parts : ∀ c ∈ text, isIdentifierPart c = true

namespace IsIdentifier

/-- Other characters are not in it. -/
theorem notMem (identifier : IsIdentifier text) {c : Char} (other : isIdentifierPart c = false) :
    c ∉ text := fun inside => Bool.false_ne_true (other.symm.trans (identifier.parts c inside))

/-- It is one line. -/
theorem isOneLine (identifier : IsIdentifier text) : IsOneLine text :=
  ⟨identifier.notMem isIdentifierPart_feed, identifier.notMem isIdentifierPart_return⟩

/-- **An identifier is found between characters that are none of identifiers.** -/
theorem wordOccursIn_between (identifier : IsIdentifier word) {front behind : Text}
    (left : front.getLast?.any isIdentifierPart = false)
    (right : behind.head?.any isIdentifierPart = false) :
    wordOccursIn word (front ++ (word ++ behind)) = true := by
  have start : wordOccursIn word (word ++ behind) = true := by
    cases behind with
    | nil => rw [List.append_nil, wordOccursIn_self]
    | cons c behind =>
      have other : isIdentifierPart c = false := by simpa using right
      rw [wordOccursIn_append_cons (identifier.notMem other) other, wordOccursIn_self, Bool.true_or]
  rcases List.eq_nil_or_concat front with rfl | ⟨front, c, rfl⟩
  · exact start
  · rw [List.concat_eq_append] at left ⊢
    have other : isIdentifierPart c = false := by simpa using left
    rw [List.append_assoc, List.singleton_append,
      wordOccursIn_append_cons (identifier.notMem other) other, start, Bool.or_true]

end IsIdentifier

/-- A blank is no part of an identifier. -/
theorem isIdentifierPart_of_isBlank {c : Char} (blank : isBlank c = true) :
    isIdentifierPart c = false := by
  rw [Bool.eq_false_iff]
  intro part
  have plain : isPlain c = true ∨ c = '$' := by
    simp only [isIdentifierPart, Bool.or_eq_true, beq_iff_eq] at part
    rcases part with (letter | rfl) | rfl
    · exact .inl (isPlain_of_isAlphanumeric letter)
    · exact .inl (by decide)
    · exact .inr rfl
  rcases plain with plain | rfl
  · have solid : isBlank c = false :=
      @IsPlain.isBlank_eq [c] (fun d inside => List.mem_singleton.mp inside ▸ plain) c (by simp)
    exact Bool.false_ne_true (solid.symm.trans blank)
  · exact absurd blank (by decide)

/-- A word of one line is found in a text exactly if it is found in the lines that are read from it. -/
theorem wordOccursIn_lines (single : IsOneLine word) :
    wordOccursIn word (unlines (lines text)) = wordOccursIn word text := by
  have rowWise := rowWise_wordOccursIn single
  rw [Bool.eq_iff_iff]
  refine ⟨fun found => ?_, rowWise.of_carried (carried_lines text)⟩
  obtain ⟨row, member, here⟩ := (rowWise.iff_rows _).mp found
  by_cases some : lines text = []
  · rw [some] at member
    obtain rfl : row = [] := by simpa [unlines, joinWith] using member
    exact rowWise.empty here text
  · rw [rows_unlines_of_notMem some fun line => feed_notMem_of_mem_lines, lines_eq_rows] at member
    rcases mem_of_mem_linesOfRows member with same | longer
    · exact (rowWise.iff_rows text).mpr ⟨row, same, here⟩
    · refine (rowWise.iff_rows text).mpr ⟨_, longer, ?_⟩
      rw [wordOccursIn_append_cons single.2 isIdentifierPart_return, here, Bool.true_or]

end Scaffold.Text
