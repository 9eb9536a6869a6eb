import Scaffold.Proofs.Text.Span

/-!
# Matches in other surroundings

A pattern is linewise if the only conditions in it are that a line begins or ends. Where it matches a
text, it also does so between two other texts, as long as these agree with the first ones on whether a
line begins in front of the text and ends behind it (`Matches.of_lines`). Two more properties show
in the shape of a pattern: that it matches no empty text (`isFilled`), and that everything that it
matches ends with a character (`isClosedBy`).
-/
namespace Scaffold

/-- A line begins behind a text that is given last character first. -/
def BeginsLine (before : Text) : Prop := before = [] ∨ before.head? = some '\n'

/-- A line ends in front of a text. -/
def EndsLine (after : Text) : Prop := after = [] ∨ after.head? = some '\n'

namespace Pattern

/-- The only conditions are that a line begins or ends at a line feed or at an end of the text. -/
def isLinewise : Pattern → Bool
  | empty | one _ | run _ _ _ _ => true
  | both first second | either first second => first.isLinewise && second.isLinewise
  | repeated inner _ _ _ | group _ inner => inner.isLinewise
  | boundary condition => condition == .lineStart false || condition == .lineEnd false

/-- Nothing empty is matched. -/
def isFilled : Pattern → Bool
  | empty | boundary _ => false
  | one _ => true
  | run _ least _ _ => 0 < least
  | both first second => first.isFilled || second.isFilled
  | either first second => first.isFilled && second.isFilled
  | repeated inner least _ _ => 0 < least && inner.isFilled
  | group _ inner => inner.isFilled

/-- The pattern ends with a character. -/
def isClosedBy (c : Char) : Pattern → Bool
  | both _ (one set) => set = .only c
  | _ => false

variable {pattern : Pattern} {before other text after behind : Text}

/-- What is matched is not empty. -/
theorem ne_nil_of_isFilled (filled : pattern.isFilled = true)
    (matched : pattern.Matches before text after) : text ≠ [] := by
  induction pattern generalizing before text after with
  | empty | boundary _ => exact absurd filled Bool.false_ne_true
  | one set =>
    obtain ⟨c, rfl, -⟩ := matched
    simp
  | run set least most reluctant =>
    obtain ⟨-, enough, -⟩ := matched
    have positive : 0 < least := of_decide_eq_true filled
    exact List.ne_nil_of_length_pos (Nat.lt_of_lt_of_le positive enough)
  | both first second firstIh secondIh =>
    obtain ⟨front, rest, rfl, early, late⟩ := matched
    rcases (Bool.or_eq_true _ _).mp filled with one | two
    · exact List.append_ne_nil_of_left_ne_nil (firstIh one early) rest
    · exact List.append_ne_nil_of_right_ne_nil front (secondIh two late)
  | either first second firstIh secondIh =>
    obtain ⟨one, two⟩ := (Bool.and_eq_true _ _).mp filled
    exact matched.elim (firstIh one) (secondIh two)
  | repeated inner least most reluctant ih =>
    obtain ⟨positive, inside⟩ := (Bool.and_eq_true _ _).mp filled
    obtain ⟨count, enough, -, rounds⟩ := matched
    cases count with
    | zero => exact absurd (of_decide_eq_true positive) (Nat.not_lt.mpr enough)
    | succ count =>
      obtain ⟨first, rest, rfl, here, -⟩ := rounds
      exact List.append_ne_nil_of_left_ne_nil (ih inside here) rest
  | group index inner ih => exact ih filled matched

/-- What is matched ends with it. -/
theorem getLast?_of_isClosedBy {c : Char} (closed : pattern.isClosedBy c = true)
    (matched : pattern.Matches before text after) : text.getLast? = some c := by
  unfold isClosedBy at closed
  split at closed
  · obtain rfl := of_decide_eq_true closed
    obtain ⟨front, _, rfl, -, d, rfl, held⟩ := matched
    rw [CharSet.holds_only.mp held]
    simp
  · exact absurd closed Bool.false_ne_true

/-- That a line begins depends on what stands in front. -/
theorem holds_lineStart : (Boundary.lineStart false).holds ⟨before, after, []⟩ = true ↔
    BeginsLine before := by
  cases before with
  | nil => simp [Boundary.holds, Cursor.atLineStart, BeginsLine]
  | cons c before =>
    by_cases feed : c = '\n'
    · simp [Boundary.holds, Cursor.atLineStart, BeginsLine, feed]
    · by_cases isReturn : c = '\x0d'
      · simp [Boundary.holds, Cursor.atLineStart, BeginsLine, isReturn]
      · simp [Boundary.holds, Cursor.atLineStart, BeginsLine, feed, isReturn]

/-- That one ends depends on what follows. -/
theorem holds_lineEnd : (Boundary.lineEnd false).holds ⟨before, after, []⟩ = true ↔
    EndsLine after := by
  cases after with
  | nil => simp [Boundary.holds, Cursor.atLineEnd, EndsLine]
  | cons c after =>
    by_cases feed : c = '\n'
    · simp [Boundary.holds, Cursor.atLineEnd, EndsLine, feed]
    · by_cases isReturn : c = '\x0d'
      · simp [Boundary.holds, Cursor.atLineEnd, EndsLine, isReturn]
      · simp [Boundary.holds, Cursor.atLineEnd, EndsLine, feed, isReturn]

/-- Texts that agree on whether a line begins behind them still do so behind a text. -/
theorem beginsLine_append (front : BeginsLine before ↔ BeginsLine other) (text : Text) :
    BeginsLine (text.reverse ++ before) ↔ BeginsLine (text.reverse ++ other) := by
  cases reversed : text.reverse with
  | nil => exact front
  | cons c rest => simp [BeginsLine]

/-- Texts that agree on whether a line ends in front of them still do so in front of a text. -/
theorem endsLine_append (back : EndsLine after ↔ EndsLine behind) (text : Text) :
    EndsLine (text ++ after) ↔ EndsLine (text ++ behind) := by
  cases text with
  | nil => exact back
  | cons c rest => simp [EndsLine]

/-- **Other surroundings make no difference to a linewise pattern**, as long as lines begin and end in
the same places. -/
theorem Matches.of_lines (linewise : pattern.isLinewise = true)
    (front : BeginsLine before ↔ BeginsLine other) (back : EndsLine after ↔ EndsLine behind)
    (matched : pattern.Matches before text after) : pattern.Matches other text behind := by
  induction pattern generalizing before other text after behind with
  | empty | one _ | run _ _ _ _ => exact matched
  | both first second firstIh secondIh =>
    obtain ⟨one, two⟩ := (Bool.and_eq_true _ _).mp linewise
    obtain ⟨start, rest, rfl, early, late⟩ := matched
    exact ⟨start, rest, rfl, firstIh one front (endsLine_append back rest) early,
      secondIh two (beginsLine_append front start) back late⟩
  | either first second firstIh secondIh =>
    obtain ⟨one, two⟩ := (Bool.and_eq_true _ _).mp linewise
    exact matched.imp (firstIh one front back) (secondIh two front back)
  | repeated inner least most reluctant ih =>
    obtain ⟨count, enough, within, rounds⟩ := matched
    refine ⟨count, enough, within, ?_⟩
    clear enough within
    induction count generalizing before other text with
    | zero => exact rounds
    | succ count roundsIh =>
      obtain ⟨first, rest, rfl, here, others⟩ := rounds
      exact ⟨first, rest, rfl, ih linewise front (endsLine_append back rest) here,
        roundsIh (beginsLine_append front first) others⟩
  | group index inner ih => exact ih linewise front back matched
  | boundary condition =>
    obtain ⟨rfl, held⟩ := matched
    refine ⟨rfl, ?_⟩
    rcases (Bool.or_eq_true _ _).mp linewise with start | ending
    · obtain rfl := eq_of_beq start
      exact holds_lineStart.mpr (front.mp (holds_lineStart.mp held))
    · obtain rfl := eq_of_beq ending
      exact holds_lineEnd.mpr (back.mp (holds_lineEnd.mp held))

end Pattern

end Scaffold
