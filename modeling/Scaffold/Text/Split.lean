import Scaffold.Text.Basic

/-!
# Splitting and replacing

Cutting a text at a character, at its first or last occurrence, and replacing every occurrence of
a piece of text. Joining what a split returned gives the text back (`joinWith_splitOn`).
-/
namespace Scaffold.Text

/-- The pieces between the characters that satisfy `cut`; always at least one piece. -/
def splitWhere (cut : Char → Bool) : Text → List Text
  | [] => [[]]
  | c :: rest =>
    if cut c then [] :: splitWhere cut rest
    else match splitWhere cut rest with
      | [] => [[c]]
      | piece :: pieces => (c :: piece) :: pieces

/-- The pieces between the occurrences of one character. -/
def splitOn (separator : Char) (text : Text) : List Text := splitWhere (· = separator) text

/-- The text before and after the first occurrence of a character. -/
def splitFirst? (separator : Char) : Text → Option (Text × Text)
  | [] => none
  | c :: rest =>
    if c = separator then some ([], rest)
    else (splitFirst? separator rest).map fun (before, after) => (c :: before, after)

/-- The text before and after the last occurrence of a character. -/
def splitLast? (separator : Char) : Text → Option (Text × Text)
  | [] => none
  | c :: rest =>
    match splitLast? separator rest with
    | some (before, after) => some (c :: before, after)
    | none => if c = separator then some ([], rest) else none

/-- Walks the text with a number of characters still covered by the last replaced piece. -/
def replaceFrom (old new : Text) : Nat → Text → Text
  | _, [] => []
  | covered + 1, _ :: rest => replaceFrom old new covered rest
  | 0, c :: rest =>
    if old.isPrefixOf (c :: rest) then new ++ replaceFrom old new (old.length - 1) rest
    else c :: replaceFrom old new 0 rest

/-- Every occurrence of the non-empty piece `old`, from the left and without overlap, is
replaced by `new`. -/
def replaceAll (text old new : Text) : Text := replaceFrom old new 0 text

/-- A text that holds no cut is one piece. -/
theorem splitWhere_of_forall {cut : Char → Bool} {text : Text} (whole : ∀ c ∈ text, cut c = false) :
    splitWhere cut text = [text] := by
  induction text with
  | nil => rfl
  | cons c rest ih =>
    simp only [List.mem_cons, forall_eq_or_imp] at whole
    simp [splitWhere, whole.1, ih whole.2]

/-- A split returns at least one piece. -/
theorem splitWhere_ne_nil (cut : Char → Bool) (text : Text) : splitWhere cut text ≠ [] := by
  cases text with
  | nil => simp [splitWhere]
  | cons c rest =>
    by_cases here : cut c = true
    · simp [splitWhere, here]
    · cases pieces : splitWhere cut rest <;> simp [splitWhere, here, pieces]

/-- The separator between the pieces gives the text back. -/
theorem joinWith_splitOn (separator : Char) (text : Text) :
    joinWith [separator] (splitOn separator text) = text := by
  unfold splitOn
  induction text with
  | nil => rfl
  | cons c rest ih =>
    have some_piece := splitWhere_ne_nil (fun c => decide (c = separator)) rest
    cases pieces : splitWhere (fun c => decide (c = separator)) rest with
    | nil => exact absurd pieces some_piece
    | cons piece pieces' =>
      rw [pieces] at ih
      by_cases here : c = separator
      · subst here
        simp [splitWhere, pieces, joinWith, ih]
      · cases pieces' <;> simp_all [splitWhere, joinWith]

/-- No piece holds a cut. -/
theorem not_cut_of_mem_splitWhere {cut : Char → Bool} {text piece : Text}
    (member : piece ∈ splitWhere cut text) : ∀ c ∈ piece, cut c = false := by
  induction text generalizing piece with
  | nil => simp_all [splitWhere]
  | cons c rest ih =>
    by_cases here : cut c = true
    · simp only [splitWhere, here, ↓reduceIte, List.mem_cons] at member
      rcases member with rfl | member
      · simp
      · exact ih member
    · cases pieces : splitWhere cut rest with
      | nil => exact absurd pieces (splitWhere_ne_nil cut rest)
      | cons first others =>
        simp only [splitWhere, here, pieces, Bool.false_eq_true, ↓reduceIte, List.mem_cons] at member
        rcases member with rfl | member
        · intro d inside
          rcases List.mem_cons.1 inside with rfl | inside
          · simpa using here
          · exact ih (by rw [pieces]; exact List.mem_cons_self) d inside
        · exact ih (by rw [pieces]; exact List.mem_cons_of_mem _ member)

/-- The two sides of a first split, with the separator between them, are the text. -/
theorem eq_of_splitFirst? {separator : Char} {text before after : Text}
    (cut : splitFirst? separator text = some (before, after)) :
    text = before ++ separator :: after ∧ separator ∉ before := by
  induction text generalizing before after with
  | nil => simp [splitFirst?] at cut
  | cons c rest ih =>
    by_cases here : c = separator
    · simp only [splitFirst?, here, ↓reduceIte, Option.some.injEq, Prod.mk.injEq] at cut
      obtain ⟨rfl, rfl⟩ := cut
      simp [here]
    · simp only [splitFirst?, here, ↓reduceIte, Option.map_eq_some_iff, Prod.mk.injEq,
        Prod.exists] at cut
      obtain ⟨first, second, found, rfl, rfl⟩ := cut
      obtain ⟨rfl, absent⟩ := ih found
      exact ⟨rfl, by simp [absent, Ne.symm here]⟩

end Scaffold.Text
