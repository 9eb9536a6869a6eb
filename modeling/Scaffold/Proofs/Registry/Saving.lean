import Scaffold.Proofs.Registry.Weave

/-!
# Saving a shared file

What the rows of a file are after it was read and saved: a carriage return in front of a line feed
is dropped (`rows_toText_ofText`). So reading and saving gives a text back exactly if it is not
empty and no carriage return stands in front of a line feed (`toText_ofText_iff`), and the rows that
insertions add are woven into its rows only then (`weave_rows_iff`).
-/
namespace Scaffold

namespace Text

/-- A carriage return with a line feed behind it, the ending of a line elsewhere. -/
def returnFeed : Text := ['\x0d', '\n']

/-- Rows as they are saved: a row with one behind it loses a carriage return at its end. -/
def savedRows : List Text → List Text
  | [] => []
  | [last] => [last]
  | row :: next :: rest => withoutReturn row :: savedRows (next :: rest)

/-- A row loses nothing unless a carriage return ends it. -/
theorem withoutReturn_eq_iff {row : Text} :
    withoutReturn row = row ↔ row.getLast? ≠ some '\x0d' := by
  unfold withoutReturn
  split
  · rename_i last
    obtain ⟨start, rfl⟩ := List.getLast?_eq_some_iff.mp last
    simp
  · rename_i last
    simpa using last

/-- A carriage return and a line feed stand behind each other at the end of a row, or after it. -/
theorem returnFeed_infix_append {row rest : Text} (whole : '\n' ∉ row) :
    returnFeed <:+: row ++ '\n' :: rest ↔
      row.getLast? = some '\x0d' ∨ returnFeed <:+: rest := by
  have other : ¬returnFeed <+: '\n' :: rest := by simp [returnFeed, List.cons_prefix_cons]
  induction row with
  | nil => simp [List.infix_cons_iff, other]
  | cons c row ih =>
    have later : '\n' ∉ row := fun inside => whole (List.mem_cons_of_mem c inside)
    rw [List.cons_append, List.infix_cons_iff]
    refine (or_congr_right (ih later)).trans ?_
    cases row with
    | nil => simp [returnFeed, List.cons_prefix_cons, eq_comm]
    | cons d row =>
      have same : d ≠ '\n' := fun same => later (by simp [same])
      have apart : ¬returnFeed <+: c :: d :: (row ++ '\n' :: rest) := by
        simp [returnFeed, List.cons_prefix_cons, Ne.symm same]
      simp [apart]

/-- Rows are saved as they are if no carriage return stands in front of a line feed. -/
theorem savedRows_eq_iff {all : List Text} (whole : ∀ row ∈ all, '\n' ∉ row) :
    savedRows all = all ↔ ¬returnFeed <:+: unlines all := by
  induction all with
  | nil => simp [savedRows, unlines, joinWith, returnFeed]
  | cons row rest ih =>
    have here := whole row List.mem_cons_self
    have later := ih fun other member => whole other (List.mem_cons_of_mem row member)
    cases rest with
    | nil =>
      have absent : ¬returnFeed <:+: row := by
        intro inside
        exact here (inside.subset (by simp [returnFeed]))
      simpa [savedRows, unlines, joinWith] using absent
    | cons next more =>
      have joined : unlines (row :: next :: more) = row ++ '\n' :: unlines (next :: more) := by
        simp [unlines, joinWith]
      rw [savedRows, joined, returnFeed_infix_append here, List.cons.injEq, later,
        withoutReturn_eq_iff, not_or]

/-- The last row keeps its carriage return: no line feed stands behind it. -/
example : savedRows ["<?php\r", "return [];\r"] = ["<?php".toList, "return [];\r".toList] := by
  decide +kernel

/-- A row loses at most something. -/
theorem length_withoutReturn_le (row : Text) : (withoutReturn row).length ≤ row.length := by
  rcases withoutReturn_cases row with same | longer
  · exact Nat.le_of_eq (congrArg List.length same.symm)
  · have length := congrArg List.length longer
    rw [List.length_append] at length
    omega

/-- Saved rows are no longer than the rows were. -/
theorem length_savedRows_le (all : List Text) :
    (savedRows all).flatten.length ≤ all.flatten.length := by
  induction all with
  | nil => exact Nat.le_refl 0
  | cons row rest ih =>
    cases rest with
    | nil => exact Nat.le_refl _
    | cons next more =>
      have first := length_withoutReturn_le row
      rw [savedRows, List.flatten_cons, List.flatten_cons, List.length_append, List.length_append]
      omega

/-- Saved rows that are the rows in some order are the rows. -/
theorem savedRows_eq_of_perm {all : List Text} (same : (savedRows all).Perm all) :
    savedRows all = all := by
  have length := same.flatten.length_eq
  clear same
  induction all with
  | nil => rfl
  | cons row rest ih =>
    cases rest with
    | nil => rfl
    | cons next more =>
      have first := length_withoutReturn_le row
      have others := length_savedRows_le (next :: more)
      rw [savedRows, List.flatten_cons, List.flatten_cons, List.length_append,
        List.length_append] at length
      have whole : withoutReturn row = row := by
        rcases withoutReturn_cases row with same | longer
        · exact same.symm
        · have shorter := congrArg List.length longer
          rw [List.length_append] at shorter
          simp only [List.length_cons, List.length_nil] at shorter
          omega
      rw [savedRows, whole, ih (by omega)]

/-- The lines of rows, with an empty one behind them if the last row is empty, are the saved
rows. -/
theorem linesOfRows_append {all : List Text} (some : all ≠ []) :
    linesOfRows all ++ (if all.getLast? = Option.some [] then [[]] else []) = savedRows all := by
  induction all with
  | nil => exact absurd rfl some
  | cons row rest ih =>
    cases rest with
    | nil => by_cases empty : row = [] <;> simp [linesOfRows, savedRows, empty]
    | cons next more =>
      have later := ih (by simp)
      rw [linesOfRows, savedRows, ← later, List.getLast?_cons_cons, List.cons_append]

/-- A text that is not empty ends with a line feed exactly if its last row is empty. -/
theorem getLast?_eq_feed_iff {text : Text} (filled : text ≠ []) :
    text.getLast? = some '\n' ↔ (rows text).getLast? = some [] := by
  rcases List.eq_nil_or_concat text with rfl | ⟨front, c, rfl⟩
  · exact absurd rfl filled
  · rw [List.concat_eq_append, List.getLast?_concat, Option.some.injEq]
    by_cases feed : c = '\n'
    · simp [feed, rows_append_cons]
    · simp only [feed, false_iff]
      intro last
      obtain ⟨start, same⟩ := List.getLast?_eq_some_iff.mp last
      have joined := unlines_rows (front ++ [c])
      rw [same] at joined
      rcases List.eq_nil_or_concat start with rfl | ⟨before, row, rfl⟩
      · simp [unlines, joinWith] at joined
      · have ending : ∀ all : List Text, all ≠ [] →
            unlines (all ++ [[]]) = unlines all ++ ['\n'] := by
          intro all some
          induction all with
          | nil => exact absurd rfl some
          | cons first rest ih =>
            cases rest with
            | nil => simp [unlines, joinWith]
            | cons next more =>
              have later := ih (by simp)
              simp only [unlines, List.cons_append, joinWith] at later ⊢
              rw [later]
              simp
        rw [ending _ (by simp)] at joined
        have last := congrArg List.getLast? joined
        rw [List.getLast?_concat, List.getLast?_concat, Option.some.injEq] at last
        exact feed last.symm

end Text

namespace SharedFile

open Text

/-- The rows of a saved file: those of its lines, and an empty one if the last line has ended. -/
theorem rows_toText {file : SharedFile} (some : file.lines ≠ []) :
    rows file.toText = file.lines.flatMap rows ++ (if file.ended then [[]] else []) := by
  unfold toText joined
  cases file.ended with
  | false => simp [rows_unlines some]
  | true =>
    have split := rows_append_cons (unlines file.lines) []
    simpa [rows_unlines some] using split

/-- Lines without line feeds in them are their own rows. -/
theorem flatMap_rows_of_notMem {all : List Text} (whole : ∀ line ∈ all, '\n' ∉ line) :
    all.flatMap rows = all := by
  induction all with
  | nil => rfl
  | cons line rest ih =>
    rw [List.flatMap_cons, rows_of_notMem (whole line List.mem_cons_self),
      ih fun other member => whole other (List.mem_cons_of_mem line member)]
    rfl

/-- The lines of a text have no line feeds in them. -/
theorem flatMap_rows_lines (text : Text) : (Text.lines text).flatMap rows = Text.lines text :=
  flatMap_rows_of_notMem fun _ member => feed_notMem_of_mem_lines member

/-- A text that is not empty has lines. -/
theorem lines_ne_nil {text : Text} (filled : text ≠ []) : Text.lines text ≠ [] := by
  intro none
  have flat := flatten_linesWithEndings text
  rw [Text.lines, List.map_eq_nil_iff] at none
  rw [none] at flat
  exact filled flat.symm

/-- The lines that are read from a text, and an empty row if the last of them has ended, are its
rows as they are saved. -/
theorem lines_ofText {text : Text} (filled : text ≠ []) :
    (ofText text).lines ++ (if (ofText text).ended then [[]] else []) = savedRows (rows text) := by
  have ended : (ofText text).ended = decide ((rows text).getLast? = some []) := by
    have empty : text.isEmpty = false := by simpa using filled
    rw [ofText, empty, Bool.false_or, Bool.eq_iff_iff, beq_iff_eq, decide_eq_true_eq]
    exact getLast?_eq_feed_iff filled
  rw [← linesOfRows_append (rows_ne_nil text), ← lines_eq_rows, ended]
  by_cases last : (rows text).getLast? = some [] <;> simp [last, ofText]

/-- Reading and saving a text. -/
theorem rows_toText_ofText {text : Text} (filled : text ≠ []) :
    rows (ofText text).toText = savedRows (rows text) := by
  rw [rows_toText (lines_ne_nil filled), ← lines_ofText filled]
  show (Text.lines text).flatMap rows ++ _ = Text.lines text ++ _
  rw [flatMap_rows_lines]

/-- Texts with the same rows are the same. -/
theorem eq_of_rows {text other : Text} (same : rows text = rows other) : text = other := by
  rw [← unlines_rows text, same, unlines_rows]

/-- Rows are saved as they are exactly if no carriage return stands in front of a line feed. -/
theorem savedRows_rows_iff {text : Text} :
    savedRows (rows text) = rows text ↔ ¬returnFeed <:+: text := by
  have saved := @savedRows_eq_iff (rows text) fun row member => feed_notMem_of_mem_rows member
  rwa [unlines_rows] at saved

/-- Reading and saving gives a text back exactly if it is not empty and no carriage return stands in
front of a line feed. -/
theorem toText_ofText_iff {text : Text} :
    (ofText text).toText = text ↔ text ≠ [] ∧ ¬returnFeed <:+: text := by
  by_cases filled : text = []
  · subst filled
    simp only [ne_eq, not_true_eq_false, false_and, iff_false]
    decide
  · rw [← savedRows_rows_iff, and_iff_right filled, ← rows_toText_ofText filled]
    exact ⟨fun same => by rw [same], eq_of_rows⟩

/-- Lines woven into those of a text are saved as rows woven into its saved rows. -/
theorem weave_savedRows {text : Text} (filled : text ≠ []) {updated : SharedFile}
    (ended : updated.ended = (ofText text).ended) {added : List Text}
    (weave : Weave (ofText text).lines added updated.lines) :
    Weave (savedRows (rows text)) (added.flatMap rows) (rows updated.toText) := by
  have some : updated.lines ≠ [] := by
    intro none
    have length := weave.perm.length_eq
    rw [none, List.length_append] at length
    exact lines_ne_nil filled (List.eq_nil_of_length_eq_zero (by
      show (ofText text).lines.length = 0
      simp only [List.length_nil] at length
      omega))
  have rowsWoven := weave.flatMap rows
  have own : (ofText text).lines.flatMap rows = (ofText text).lines := flatMap_rows_lines text
  rw [own] at rowsWoven
  have whole := rowsWoven.append (Weave.refl (if (ofText text).ended then [[]] else []))
  rw [List.append_nil, lines_ofText filled, ← ended, ← rows_toText some] at whole
  exact whole

/-- **What is added can be taken out again.** The rows of the added lines are woven into those of
the text, and so the text is what is left without them, exactly if no carriage return stands in
front of a line feed of it. -/
theorem weave_rows_iff {text : Text} (filled : text ≠ []) {updated : SharedFile}
    (ended : updated.ended = (ofText text).ended) {added : List Text}
    (weave : Weave (ofText text).lines added updated.lines) :
    Weave (rows text) (added.flatMap rows) (rows updated.toText) ↔ ¬returnFeed <:+: text := by
  have saved := weave_savedRows filled ended weave
  rw [← savedRows_rows_iff]
  constructor
  · intro whole
    have same := saved.perm.symm.trans whole.perm
    exact savedRows_eq_of_perm ((List.perm_append_right_iff _).mp same)
  · intro same
    rwa [same] at saved

end SharedFile

end Scaffold
