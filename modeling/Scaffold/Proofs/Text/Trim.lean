import Scaffold.Proofs.Text.Row

/-!
# Trimming

Blanks at the ends of a text do not show in its trimmed form, and a trimmed text that is not empty
begins and ends with characters that are not blank. A text whose trimmed rows include a given text
has a row that is that text up to blanks around it.
-/
namespace Scaffold.Text

/-- A blank at the front does not show. -/
theorem trim_cons {c : Char} (blank : isBlank c = true) (text : Text) :
    trim (c :: text) = trim text := by
  simp [trim, trimStart, blank]

/-- Blanks at the front do not show. -/
theorem trim_append_left {margin : Text} (blank : ∀ c ∈ margin, isBlank c = true) (text : Text) :
    trim (margin ++ text) = trim text := by
  induction margin with
  | nil => rfl
  | cons c margin ih =>
    rw [List.cons_append, trim_cons (blank c List.mem_cons_self)]
    exact ih fun d inside => blank d (List.mem_cons_of_mem _ inside)

/-- A blank at the end does not show. -/
theorem trim_append_singleton {c : Char} (blank : isBlank c = true) (text : Text) :
    trim (text ++ [c]) = trim text := by
  unfold trim trimStart trimEnd dropEndWhile
  rw [List.dropWhile_append]
  split
  · rename_i gone
    have empty : text.dropWhile isBlank = [] := by simpa using gone
    simp [empty, blank]
  · simp [blank]

/-- Blanks at the end do not show. -/
theorem trim_append_right {margin : Text} (blank : ∀ c ∈ margin, isBlank c = true) (text : Text) :
    trim (text ++ margin) = trim text := by
  induction margin generalizing text with
  | nil => rw [List.append_nil]
  | cons c margin ih =>
    rw [List.append_cons, ih fun d inside => blank d (List.mem_cons_of_mem _ inside)]
    exact trim_append_singleton (blank c List.mem_cons_self) text

/-- A carriage return is blank. -/
theorem isBlank_return : isBlank '\x0d' = true := by decide

/-- A text is not blank if its front is not. -/
theorem isBlankText_append {front : Text} (visible : isBlankText front = false) (rest : Text) :
    isBlankText (front ++ rest) = false := by
  unfold isBlankText at visible ⊢
  rw [List.all_append, visible, Bool.false_and]

/-- What is left of a text does not begin with a blank. -/
theorem isBlank_head_trimStart {text : Text} {c : Char} (first : (trimStart text).head? = some c) :
    isBlank c = false := by
  have kept := List.head?_dropWhile_not isBlank text
  rw [trimStart] at first
  rw [first] at kept
  simpa using kept

/-- What trimming the end leaves is a beginning of the text. -/
theorem trimEnd_prefix_self (text : Text) : trimEnd text <+: text := by
  rw [← List.reverse_suffix, trimEnd, dropEndWhile, List.reverse_reverse]
  exact List.dropWhile_suffix _

/-- A trimmed text does not end with a blank. -/
theorem isBlank_getLast_trimEnd {text : Text} {c : Char}
    (last : (trimEnd text).getLast? = some c) : isBlank c = false := by
  rw [trimEnd, dropEndWhile, List.getLast?_reverse] at last
  exact isBlank_head_trimStart last

/-- Neither does it begin with one. -/
theorem isBlank_head_trim {text : Text} {c : Char} (first : (trim text).head? = some c) :
    isBlank c = false := by
  apply @isBlank_head_trimStart text
  obtain ⟨rest, same⟩ := trimEnd_prefix_self (trimStart text)
  cases trimmed : trim text with
  | nil => simp [trimmed] at first
  | cons d more =>
    rw [trim] at trimmed
    rw [← same, trimmed]
    simpa [trim, trimmed] using first

/-- A text that does not begin with a blank begins in the same way when it is trimmed. -/
theorem head?_trim {c : Char} (solid : isBlank c = false) (rest : Text) :
    (trim (c :: rest)).head? = some c := by
  have start : trimStart (c :: rest) = c :: rest := by simp [trimStart, solid]
  have filled : trimEnd (c :: rest) ≠ [] := by
    rw [trimEnd, dropEndWhile, List.reverse_cons, List.dropWhile_append]
    split <;> simp_all
  obtain ⟨d, more, split⟩ := List.exists_cons_of_ne_nil filled
  have begins := trimEnd_prefix_self (c :: rest)
  rw [split] at begins
  rw [trim, start, split, (List.cons_prefix_cons.mp begins).1]
  rfl

/-- A text is its trimmed form between blanks. -/
theorem exists_margins (text : Text) : ∃ front behind, text = front ++ (trim text ++ behind) ∧
    ∀ c ∈ front ++ behind, isBlank c = true := by
  refine ⟨text.takeWhile isBlank, ((trimStart text).reverse.takeWhile isBlank).reverse, ?_, ?_⟩
  · have ending := List.takeWhile_append_dropWhile (p := isBlank) (l := (trimStart text).reverse)
    have whole : trim text ++ ((trimStart text).reverse.takeWhile isBlank).reverse =
        trimStart text := by
      rw [trim, trimEnd, dropEndWhile, ← List.reverse_append, ending, List.reverse_reverse]
    rw [whole]
    exact List.takeWhile_append_dropWhile.symm
  · intro c inside
    rcases List.mem_append.mp inside with early | late
    · exact List.all_eq_true.mp List.all_takeWhile c early
    · exact List.all_eq_true.mp List.all_takeWhile c (List.mem_reverse.mp late)

/-- Trimming a trimmed text changes nothing. -/
theorem trim_trim (text : Text) : trim (trim text) = trim text :=
  trim_eq_self (fun _ first => isBlank_head_trim first) fun _ last => isBlank_getLast_trimEnd last

/-- A trimmed text is a part of the text. -/
theorem trim_infix_self (text : Text) : trim text <:+: text :=
  (trimEnd_prefix_self _).isInfix.trans (List.dropWhile_suffix _).isInfix

/-- The rows behind one more character that is no line feed: it stands in front of the first. -/
theorem rows_cons {c : Char} (other : c ≠ '\n') (text : Text) :
    ∃ row rest, rows text = row :: rest ∧ rows (c :: text) = (c :: row) :: rest := by
  cases split : rows text with
  | nil => exact absurd split (rows_ne_nil text)
  | cons row rest =>
    refine ⟨row, rest, rfl, ?_⟩
    simp only [rows, splitOn] at split
    simp [rows, splitOn, splitWhere, other, split]

/-- Blanks in front of a text, line feeds included, leave every trimmed row of it a trimmed row. -/
theorem exists_row_append_left {margin : Text} (blank : ∀ c ∈ margin, isBlank c = true)
    {text trimmed : Text} (there : ∃ row ∈ rows text, trim row = trimmed) :
    ∃ row ∈ rows (margin ++ text), trim row = trimmed := by
  induction margin with
  | nil => exact there
  | cons c margin ih =>
    have later := ih fun d inside => blank d (List.mem_cons_of_mem _ inside)
    rw [List.cons_append]
    by_cases feed : c = '\n'
    · obtain ⟨row, member, same⟩ := later
      have split : rows (c :: (margin ++ text)) = [] :: rows (margin ++ text) := by
        rw [feed]
        exact rows_append_cons [] _
      exact ⟨row, by rw [split]; exact List.mem_cons_of_mem _ member, same⟩
    · obtain ⟨first, rest, before, after⟩ := rows_cons feed (margin ++ text)
      obtain ⟨row, member, same⟩ := later
      rw [before] at member
      rw [after]
      rcases List.mem_cons.mp member with rfl | behind
      · refine ⟨c :: row, List.mem_cons_self, ?_⟩
        rw [trim_cons (blank c List.mem_cons_self), same]
      · exact ⟨row, List.mem_cons_of_mem _ behind, same⟩

end Scaffold.Text
