import Scaffold.Proofs.Text.Atom
import Scaffold.Proofs.Text.Row
import Scaffold.Text.Quoted

/-!
# Indenting without a margin

Indenting a text puts its lines below each other again, and without a margin this only tidies them: a
line ends with a line feed alone, and a blank line is empty. Lines that stand below each other are
tidied one by one (`infix_indent_unlines`), and a literal in the middle of a line is the literal of
the tidied text (`indent_quote`).
-/
namespace Scaffold.Text

/-- A row as a line: without a carriage return, and empty if it is blank. -/
def tidyRow (row : Text) : Text :=
  if isBlankText (withoutReturn row) then [] else withoutReturn row

/-- A text with its rows as lines. -/
def tidy (text : Text) : Text := unlines ((rows text).map tidyRow)

/-- A text whose last character is not blank. -/
def EndsVisibly (text : Text) : Prop := ∃ c, text.getLast? = some c ∧ isBlank c = false

/-- The last row of such a text ends as it does. -/
theorem EndsVisibly.last_row {text : Text} (ends : EndsVisibly text) :
    ∃ front last, rows text = front ++ [last] ∧ EndsVisibly last := by
  obtain ⟨c, last, visible⟩ := ends
  obtain ⟨start, rfl⟩ := List.getLast?_eq_some_iff.mp last
  have other : '\n' ≠ c := by
    rintro rfl
    exact absurd visible (by decide)
  obtain ⟨front, row, split⟩ := (List.eq_nil_or_concat (rows start)).resolve_left (rows_ne_nil start)
  rw [List.concat_eq_append] at split
  have whole : '\n' ∉ row ++ [c] := by
    have listed : row ∈ rows start := by
      rw [split]
      exact List.mem_append_right _ (List.mem_singleton_self row)
    have single : '\n' ∉ row := feed_notMem_of_mem_rows listed
    simp [single, other]
  refine ⟨front, row ++ [c], ?_, c, by simp, visible⟩
  rw [rows, splitOn_append_right split, splitOn_of_notMem whole]

/-- It is more than blanks. -/
theorem EndsVisibly.isBlankText_eq {text : Text} (ends : EndsVisibly text) :
    isBlankText text = false := by
  obtain ⟨c, last, visible⟩ := ends
  rw [isBlankText, List.all_eq_false]
  exact ⟨c, List.mem_of_getLast? last, by simp [visible]⟩

/-- It does not end with a carriage return. -/
theorem EndsVisibly.getLast?_ne {text : Text} (ends : EndsVisibly text) :
    text.getLast? ≠ some '\x0d' := by
  obtain ⟨c, last, visible⟩ := ends
  rw [last]
  rintro same
  obtain rfl := Option.some.inj same
  exact absurd visible (by decide)

/-- A row that ends visibly is left as it is. -/
theorem EndsVisibly.tidyRow_eq {row : Text} (ends : EndsVisibly row) : tidyRow row = row := by
  have kept : withoutReturn row = row := if_neg ends.getLast?_ne
  rw [tidyRow, kept, if_neg (by simp [ends.isBlankText_eq])]

/-- The lines of rows of which the last is not empty. -/
theorem linesOfRows_concat {front : List Text} {last : Text} (filled : last ≠ []) :
    linesOfRows (front ++ [last]) = front.map withoutReturn ++ [last] := by
  induction front with
  | nil => simp [linesOfRows, filled]
  | cons row rest ih =>
    cases rest with
    | nil => simp [linesOfRows, filled]
    | cons next more =>
      rw [List.cons_append, List.cons_append, linesOfRows, ← List.cons_append, ih]
      rfl

/-- Indenting without a margin tidies a text. -/
theorem indent_eq_tidy {text : Text} (ends : EndsVisibly text) : indent [] text = tidy text := by
  obtain ⟨front, last, split, visible⟩ := ends.last_row
  have filled : last ≠ [] := by
    rintro rfl
    simp [EndsVisibly] at visible
  rw [indent, indentLines, tidy, lines_eq_rows, split, linesOfRows_concat filled, List.map_append,
    List.map_append, List.map_map, List.map_singleton, List.map_singleton, visible.tidyRow_eq,
    if_neg (by simp [visible.isBlankText_eq])]
  rfl

/-- A text that is a single line stays as it is. -/
theorem indent_eq_self {text : Text} (single : '\n' ∉ text) (ends : EndsVisibly text) :
    indent [] text = text := by
  rw [indent_eq_tidy ends, tidy, rows_of_notMem single, List.map_singleton, ends.tidyRow_eq]
  rfl

/-- Joined lines end visibly if the last of them does. -/
theorem endsVisibly_unlines {lines : List Text} {last : Text} (found : lines.getLast? = some last)
    (ends : EndsVisibly last) : EndsVisibly (unlines lines) := by
  obtain ⟨c, ending, visible⟩ := ends
  refine ⟨c, ?_, visible⟩
  obtain ⟨front, rfl⟩ := List.getLast?_eq_some_iff.mp found
  induction front with
  | nil => exact ending
  | cons line rest ih =>
    have later := ih (by simp)
    obtain ⟨next, more, same⟩ := List.exists_cons_of_ne_nil (List.concat_ne_nil last rest)
    rw [same] at later
    rw [List.cons_append, same]
    simp only [unlines, joinWith] at later ⊢
    rw [List.getLast?_append, later]
    rfl

/-- Lines are joined in parts with a line feed between them. -/
theorem unlines_append {lines more : List Text} (some : lines ≠ []) (others : more ≠ []) :
    unlines (lines ++ more) = unlines lines ++ '\n' :: unlines more := by
  obtain ⟨next, later, rfl⟩ := List.exists_cons_of_ne_nil others
  induction lines with
  | nil => exact absurd rfl some
  | cons line rest ih =>
    cases rest with
    | nil => simp [unlines, joinWith]
    | cons second rest =>
      have below := ih (by simp)
      simp only [unlines, List.cons_append, joinWith] at below ⊢
      rw [below]
      simp

/-- The lines of a list joined as a part of it. -/
theorem infix_unlines (before : List Text) {lines : List Text} (some : lines ≠ [])
    (after : List Text) : unlines lines <:+: unlines (before ++ lines ++ after) := by
  have whole : unlines lines <:+: unlines (before ++ lines) := by
    by_cases none : before = []
    · simp [none]
    · rw [unlines_append none some]
      exact (List.suffix_append_of_suffix (List.suffix_cons _ _)).isInfix
  by_cases none : after = []
  · simpa [none] using whole
  · refine whole.trans ?_
    rw [unlines_append (by simp [some]) none]
    exact (List.prefix_append _ _).isInfix

/-- Joined lines may be joined in parts. -/
theorem unlines_flatMap {lines : List Text} {split : Text → List Text}
    (some : ∀ line, split line ≠ []) :
    unlines (lines.flatMap split) = unlines (lines.map fun line => unlines (split line)) := by
  induction lines with
  | nil => rfl
  | cons line rest ih =>
    cases rest with
    | nil => simp [unlines, joinWith]
    | cons next more =>
      have others : (next :: more).flatMap split ≠ [] := by simp [some]
      rw [List.flatMap_cons, unlines_append (some line) others, ih]
      simp [unlines, joinWith]

/-- Lines that stand below each other are tidied one by one. -/
theorem infix_indent_unlines (before : List Text) {lines : List Text} (some : lines ≠ [])
    (after : List Text) (ends : ∀ line ∈ lines, EndsVisibly line)
    (last : EndsVisibly (unlines (before ++ lines ++ after))) :
    unlines (lines.map (indent [])) <:+: indent [] (unlines (before ++ lines ++ after)) := by
  have tidied : lines.map (indent []) = lines.map tidy :=
    List.map_congr_left fun line member => indent_eq_tidy (ends line member)
  have filled : lines.flatMap (fun line => (rows line).map tidyRow) ≠ [] := by
    obtain ⟨line, rest, rfl⟩ := List.exists_cons_of_ne_nil some
    simp [rows_ne_nil]
  rw [tidied, show lines.map tidy = lines.map fun line => unlines ((rows line).map tidyRow) from rfl,
    ← unlines_flatMap fun line => by simp [rows_ne_nil], indent_eq_tidy last, tidy,
    rows_unlines (by simp [some]), List.flatMap_append, List.flatMap_append, List.map_append,
    List.map_append, List.map_flatMap, List.map_flatMap, List.map_flatMap]
  exact infix_unlines _ filled _

/-- A row that begins visibly begins so as a line. -/
theorem withoutReturn_cons {c : Char} (visible : isBlank c = false) (rest : Text) :
    ∃ more, withoutReturn (c :: rest) = c :: more := by
  unfold withoutReturn
  split
  · rename_i last
    cases rest with
    | nil =>
      obtain rfl : c = '\x0d' := by simpa using last
      exact absurd visible (by decide)
    | cons d rest => exact ⟨(d :: rest).dropLast, rfl⟩
  · exact ⟨rest, rfl⟩

/-- What stands in front of a row is a part of it as a line. -/
theorem withoutReturn_append {row : Text} (filled : row ≠ []) (front : Text) :
    withoutReturn (front ++ row) = front ++ withoutReturn row := by
  unfold withoutReturn
  obtain ⟨start, last, rfl⟩ := (List.eq_nil_or_concat row).resolve_left filled
  simp only [List.concat_eq_append, ← List.append_assoc, List.getLast?_concat, List.dropLast_concat]
  split
  · rfl
  · exact List.append_assoc front start [last]

/-- What stands in front of a text without blanks at its front stays there. -/
theorem tidy_append_left {front text : Text} (single : '\n' ∉ front)
    (begins : ∃ c, text.head? = some c ∧ isBlank c = false) :
    tidy (front ++ text) = front ++ tidy text := by
  obtain ⟨c, first, visible⟩ := begins
  obtain ⟨text, rfl⟩ : ∃ rest, text = c :: rest := List.head?_eq_some_iff.mp first
  have own : '\n' ∉ [c] := by
    intro same
    obtain rfl := List.mem_singleton.mp same
    exact absurd visible (by decide)
  obtain ⟨row, rest, split⟩ := List.exists_cons_of_ne_nil (rows_ne_nil text)
  have short : rows (c :: text) = (c :: row) :: rest := splitOn_append_left own split
  have long : rows (front ++ c :: text) = (front ++ c :: row) :: rest :=
    splitOn_append_left single short
  obtain ⟨more, kept⟩ := withoutReturn_cons visible row
  have begun : ∀ front : Text, isBlankText (front ++ c :: more) = false := by
    intro front
    rw [isBlankText, List.all_eq_false]
    exact ⟨c, by simp, by simp [visible]⟩
  have head : tidyRow (front ++ c :: row) = front ++ tidyRow (c :: row) := by
    rw [tidyRow, tidyRow, withoutReturn_append (by simp), kept, begun front,
      show isBlankText (c :: more) = false from begun []]
    rfl
  rw [tidy, tidy, long, short, List.map_cons, List.map_cons, head]
  cases rest <;> simp [unlines, joinWith]

/-- What stands behind a text without blanks at its end stays there. -/
theorem tidy_append_right {text back : Text} (ends : EndsVisibly text) (single : '\n' ∉ back)
    (visible : EndsVisibly back) : tidy (text ++ back) = tidy text ++ back := by
  obtain ⟨front, last, split, own⟩ := ends.last_row
  have listed : last ∈ rows text := by
    rw [split]
    exact List.mem_append_right _ (List.mem_singleton_self last)
  have alone : '\n' ∉ last := feed_notMem_of_mem_rows listed
  have whole : '\n' ∉ last ++ back := by simp [alone, single]
  have longer : EndsVisibly (last ++ back) := by
    obtain ⟨c, ending, seen⟩ := visible
    exact ⟨c, by rw [List.getLast?_append, ending]; rfl, seen⟩
  have rowsOf : rows (text ++ back) = front ++ [last ++ back] := by
    rw [rows, splitOn_append_right split, splitOn_of_notMem whole]
  rw [tidy, tidy, rowsOf, split, List.map_append, List.map_append, List.map_singleton,
    List.map_singleton, longer.tidyRow_eq, own.tidyRow_eq]
  by_cases none : front.map tidyRow = []
  · rw [none]
    rfl
  · rw [unlines_append none (by simp), unlines_append none (by simp)]
    simp [unlines, joinWith]

/-- An escaped character is blank if it is one. -/
theorem all_isBlank_escapeChar (c : Char) : (escapeChar c).all isBlank = isBlank c := by
  unfold escapeChar
  split
  · rename_i special
    rcases Bool.or_eq_true _ _ |>.mp special with same | same
    · rw [of_decide_eq_true same]
      decide
    · rw [of_decide_eq_true same]
      decide
  · simp

/-- Escaping makes nothing visible and hides nothing. -/
theorem isBlankText_escaped (text : Text) :
    isBlankText (text.flatMap escapeChar) = isBlankText text := by
  unfold isBlankText
  rw [List.all_flatMap]
  exact congrArg text.all (funext all_isBlank_escapeChar)

/-- A line is escaped as its row is. -/
theorem withoutReturn_escaped (row : Text) :
    withoutReturn (row.flatMap escapeChar) = (withoutReturn row).flatMap escapeChar := by
  rcases List.eq_nil_or_concat row with rfl | ⟨start, c, rfl⟩
  · rfl
  · rw [List.concat_eq_append, List.flatMap_append, List.flatMap_singleton]
    by_cases isReturn : c = '\x0d'
    · subst isReturn
      have own : escapeChar '\x0d' = ['\x0d'] := by decide
      simp [withoutReturn, own]
    · have last : (escapeChar c).getLast? = some c := by
        unfold escapeChar
        split <;> rfl
      simp [withoutReturn, last, isReturn]

/-- Escaping a row does not change what is tidied. -/
theorem tidyRow_escaped (row : Text) :
    tidyRow (row.flatMap escapeChar) = (tidyRow row).flatMap escapeChar := by
  unfold tidyRow
  rw [withoutReturn_escaped, isBlankText_escaped]
  split
  · rfl
  · rfl

/-- Joined lines are escaped one by one. -/
theorem unlines_escaped (lines : List Text) :
    (unlines lines).flatMap escapeChar = unlines (lines.map (·.flatMap escapeChar)) := by
  have feed : escapeChar '\n' = ['\n'] := by decide
  induction lines with
  | nil => rfl
  | cons line rest ih =>
    cases rest with
    | nil => rfl
    | cons next more =>
      simp only [unlines, joinWith, List.map_cons, List.flatMap_append] at ih ⊢
      rw [ih]
      simp [feed]

/-- The rows of an escaped text are those of the text, escaped. -/
theorem rows_escaped (text : Text) :
    rows (text.flatMap escapeChar) = (rows text).map (·.flatMap escapeChar) := by
  have whole : ∀ row ∈ (rows text).map (·.flatMap escapeChar), '\n' ∉ row := by
    intro row member inside
    obtain ⟨own, listed, rfl⟩ := List.mem_map.mp member
    obtain ⟨c, among, here⟩ := List.mem_flatMap.mp inside
    have same : '\n' = c := by
      unfold escapeChar at here
      split at here <;> simpa using here
    exact feed_notMem_of_mem_rows listed (same ▸ among)
  have written : text.flatMap escapeChar = unlines ((rows text).map (·.flatMap escapeChar)) := by
    rw [← unlines_escaped, unlines_rows]
  rw [written]
  exact rows_unlines_of_notMem (by simp [rows_ne_nil]) whole

/-- Escaping does not change what is tidied. -/
theorem tidy_escaped (text : Text) :
    tidy (text.flatMap escapeChar) = (tidy text).flatMap escapeChar := by
  rw [tidy, tidy, rows_escaped, unlines_escaped, List.map_map, List.map_map]
  exact congrArg unlines (List.map_congr_left fun row _ => tidyRow_escaped row)

/-- Escaping keeps blanks away from the ends. -/
theorem tight_escaped {text : Text} (tight : Tight text) : Tight (text.flatMap escapeChar) := by
  have mark : isBlank '\\' = false := by decide
  constructor
  · obtain ⟨c, first, visible⟩ := tight.first
    obtain ⟨rest, rfl⟩ := List.head?_eq_some_iff.mp first
    rw [List.flatMap_cons]
    unfold escapeChar
    split
    · exact ⟨'\\', rfl, mark⟩
    · exact ⟨c, rfl, visible⟩
  · obtain ⟨c, last, visible⟩ := tight.last
    obtain ⟨start, rfl⟩ := List.getLast?_eq_some_iff.mp last
    refine ⟨c, ?_, visible⟩
    rw [List.flatMap_append, List.flatMap_singleton, List.getLast?_append]
    unfold escapeChar
    split <;> rfl

/-- **A literal in the middle of a line is the literal of the tidied text.** -/
theorem indent_quote {front label back : Text} (tight : Tight label) (single : '\n' ∉ front)
    (other : '\n' ∉ back) (visible : EndsVisibly back) :
    indent [] (front ++ quote label ++ back) = front ++ quote (indent [] label) ++ back := by
  obtain ⟨c, last, seen⟩ := visible
  have parts : front ++ quote label ++ back =
      (front ++ ['\'']) ++ (label.flatMap escapeChar ++ '\'' :: back) := by
    simp [quote]
  have behind : EndsVisibly ('\'' :: back) := by
    refine ⟨c, ?_, seen⟩
    rw [List.getLast?_cons, last]
    rfl
  have escaped := tight_escaped tight
  have begins : ∃ c, (label.flatMap escapeChar ++ '\'' :: back).head? = some c ∧
      isBlank c = false := by
    obtain ⟨d, first, solid⟩ := escaped.first
    exact ⟨d, by rw [List.head?_append, first]; rfl, solid⟩
  have whole : EndsVisibly (front ++ quote label ++ back) :=
    ⟨c, by rw [List.getLast?_append, last]; rfl, seen⟩
  rw [indent_eq_tidy whole, parts, tidy_append_left (by simp [single]) begins,
    tidy_append_right escaped.last (by simp [other]) behind, tidy_escaped,
    indent_eq_tidy tight.last]
  simp [quote]

end Scaffold.Text
