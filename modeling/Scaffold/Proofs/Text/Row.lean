import Scaffold.Text.Line
import Scaffold.Text.Split

/-!
# Rows of a text

The rows of a text are what stands between its line feeds. Joining texts with line feeds joins
their rows (`rows_joinWith`), and the lines of a text are its rows without the carriage returns
before line feeds and without an empty last row (`lines_eq_rows`). A text is carried by another
one if every row of it is a row there too, up to a carriage return at its end or an empty row.
-/
namespace Scaffold.Text

/-- Splitting at a separator splits both sides of each of its occurrences. -/
theorem splitOn_append_cons (separator : Char) (before after : Text) :
    splitOn separator (before ++ separator :: after) =
      splitOn separator before ++ splitOn separator after := by
  unfold splitOn
  induction before with
  | nil => simp [splitWhere]
  | cons c rest ih =>
    by_cases cut : c = separator
    · simp [splitWhere, cut, ih]
    · cases pieces : splitWhere (· = separator) rest with
      | nil => exact absurd pieces (splitWhere_ne_nil _ rest)
      | cons piece others => simp [splitWhere, cut, ih, pieces]

/-- A text without the separator is one piece. -/
theorem splitOn_of_notMem {separator : Char} {text : Text} (whole : separator ∉ text) :
    splitOn separator text = [text] := by
  apply splitWhere_of_forall
  intro c inside
  have different : c ≠ separator := fun same => whole (same ▸ inside)
  simp [different]

/-- No piece holds the separator. -/
theorem notMem_of_mem_splitOn {separator : Char} {text piece : Text}
    (member : piece ∈ splitOn separator text) : separator ∉ piece := by
  intro inside
  have kept := not_cut_of_mem_splitWhere member separator inside
  simp at kept

/-- Splitting joined texts splits each of them. -/
theorem splitOn_joinWith (separator : Char) {texts : List Text} (some : texts ≠ []) :
    splitOn separator (joinWith [separator] texts) = texts.flatMap (splitOn separator) := by
  induction texts with
  | nil => exact absurd rfl some
  | cons text rest ih =>
    cases rest with
    | nil => simp [joinWith]
    | cons next more =>
      have later := ih (by simp)
      simp only [joinWith, List.append_assoc, List.singleton_append, splitOn_append_cons, later,
        List.flatMap_cons]

/-- Texts without the separator are read back from their joined form. -/
theorem splitOn_joinWith_of_notMem {separator : Char} {texts : List Text} (some : texts ≠ [])
    (whole : ∀ text ∈ texts, separator ∉ text) :
    splitOn separator (joinWith [separator] texts) = texts := by
  rw [splitOn_joinWith separator some]
  clear some
  induction texts with
  | nil => rfl
  | cons text rest ih =>
    have later := ih fun other member => whole other (List.mem_cons_of_mem _ member)
    rw [List.flatMap_cons, splitOn_of_notMem (whole text List.mem_cons_self), later]
    rfl

/-- What stands in front of a text belongs to its first piece. -/
theorem splitOn_append_left {separator : Char} {front text first : Text} {rest : List Text}
    (absent : separator ∉ front) (split : splitOn separator text = first :: rest) :
    splitOn separator (front ++ text) = (front ++ first) :: rest := by
  induction front with
  | nil => exact split
  | cons c front ih =>
    rw [List.mem_cons, not_or] at absent
    have later := ih absent.2
    unfold splitOn at later ⊢
    simp [splitWhere, Ne.symm absent.1, later]

/-- What stands behind a text belongs to its last piece. -/
theorem splitOn_append_right {separator : Char} {text last : Text} {front : List Text}
    (split : splitOn separator text = front ++ [last]) (more : Text) :
    splitOn separator (text ++ more) = front ++ splitOn separator (last ++ more) := by
  have back := joinWith_splitOn separator text
  have whole : ∀ piece ∈ splitOn separator text, separator ∉ piece := fun _ => notMem_of_mem_splitOn
  rw [split] at back whole
  clear split
  induction front generalizing text with
  | nil =>
    subst back
    rfl
  | cons first rest ih =>
    have joined : joinWith [separator] (first :: (rest ++ [last])) =
        first ++ separator :: joinWith [separator] (rest ++ [last]) := by
      cases rest <;> simp [joinWith]
    rw [← back, List.cons_append, joined, List.append_assoc, List.cons_append,
      splitOn_append_cons, splitOn_of_notMem (whole first List.mem_cons_self),
      ih rfl fun piece member => whole piece (List.mem_cons_of_mem _ member)]
    rfl

/-- The stretches of a text between its line feeds. -/
def rows (text : Text) : List Text := splitOn '\n' text

/-- There is at least one row. -/
theorem rows_ne_nil (text : Text) : rows text ≠ [] := splitWhere_ne_nil _ text

/-- The empty text is one empty row. -/
@[simp] theorem rows_nil : rows [] = [[]] := rfl

/-- No row holds a line feed. -/
theorem feed_notMem_of_mem_rows {text row : Text} (member : row ∈ rows text) : '\n' ∉ row :=
  notMem_of_mem_splitOn member

/-- A line feed separates the rows before it from those after it. -/
theorem rows_append_cons (before after : Text) :
    rows (before ++ '\n' :: after) = rows before ++ rows after :=
  splitOn_append_cons '\n' before after

/-- A text without line feed is its only row. -/
theorem rows_of_notMem {text : Text} (whole : '\n' ∉ text) : rows text = [text] :=
  splitOn_of_notMem whole

/-- The rows of joined lines are the rows of each of them. -/
theorem rows_unlines {lines : List Text} (some : lines ≠ []) :
    rows (unlines lines) = lines.flatMap rows :=
  splitOn_joinWith '\n' some

/-- Rows joined again are the text. -/
theorem unlines_rows (text : Text) : unlines (rows text) = text := joinWith_splitOn '\n' text

/-- Lines without line feeds are the rows of their joined form. -/
theorem rows_unlines_of_notMem {lines : List Text} (some : lines ≠ [])
    (whole : ∀ line ∈ lines, '\n' ∉ line) : rows (unlines lines) = lines :=
  splitOn_joinWith_of_notMem some whole

/-- A row without a carriage return at its end. -/
def withoutReturn (row : Text) : Text := if row.getLast? = some '\x0d' then row.dropLast else row

/-- A row is its form without carriage return, with or without one behind it. -/
theorem withoutReturn_cases (row : Text) :
    row = withoutReturn row ∨ row = withoutReturn row ++ ['\x0d'] := by
  unfold withoutReturn
  split
  · rename_i last
    obtain ⟨start, rfl⟩ := List.getLast?_eq_some_iff.mp last
    exact .inr (by simp)
  · exact .inl rfl

/-- A line whose ending is a line feed loses this and a carriage return before it. -/
theorem withoutEnding_append_feed (row : Text) :
    withoutEnding (row ++ ['\n']) = withoutReturn row := by
  unfold withoutEnding withoutReturn
  rcases List.eq_nil_or_concat row with rfl | ⟨start, last, rfl⟩
  · rfl
  · by_cases isReturn : last = '\x0d'
    · subst isReturn
      simp
    · simp [isReturn]

/-- A line without line feed has no ending to lose. -/
theorem withoutEnding_of_notMem {row : Text} (whole : '\n' ∉ row) : withoutEnding row = row := by
  unfold withoutEnding
  rcases List.eq_nil_or_concat row with rfl | ⟨start, last, rfl⟩
  · rfl
  · have other : last ≠ '\n' := fun same => whole (by simp [same])
    simp [other]

/-- The lines that rows make: every row but the last has ended, and the last one is no line if it
is empty. -/
def linesOfRows : List Text → List Text
  | [] => []
  | [last] => if last.isEmpty then [] else [last]
  | row :: next :: rest => withoutReturn row :: linesOfRows (next :: rest)

/-- The lines with endings that rows make. -/
private def endedRows : List Text → List Text
  | [] => []
  | [last] => if last.isEmpty then [] else [last]
  | row :: next :: rest => (row ++ ['\n']) :: endedRows (next :: rest)

/-- Lines with their endings are the rows with the line feeds between them. -/
private theorem linesWithEndings_eq_endedRows (text : Text) :
    linesWithEndings text = endedRows (rows text) := by
  induction text with
  | nil => rfl
  | cons c rest ih =>
    by_cases feed : c = '\n'
    · subst feed
      have split : rows ('\n' :: rest) = [] :: rows rest := rows_append_cons [] rest
      cases later : rows rest with
      | nil => exact absurd later (rows_ne_nil rest)
      | cons row more => simp [linesWithEndings, split, later, endedRows, ih]
    · cases later : rows rest with
      | nil => exact absurd later (rows_ne_nil rest)
      | cons row more =>
        have split : rows (c :: rest) = (c :: row) :: more := by
          simp only [rows, splitOn] at later
          simp [rows, splitOn, splitWhere, feed, later]
        cases more with
        | nil =>
          cases row with
          | nil => simp [linesWithEndings, feed, split, later, endedRows, ih]
          | cons d row => simp [linesWithEndings, feed, split, later, endedRows, ih]
        | cons next more => simp [linesWithEndings, feed, split, later, endedRows, ih]

/-- A row with something in it is a line, or becomes one with its line feed. -/
theorem mem_linesWithEndings {text row : Text} (member : row ∈ rows text) (filled : row ≠ []) :
    row ∈ linesWithEndings text ∨ row ++ ['\n'] ∈ linesWithEndings text := by
  rw [linesWithEndings_eq_endedRows]
  generalize rows text = all at member
  induction all with
  | nil => simp at member
  | cons first rest ih =>
    cases rest with
    | nil =>
      obtain rfl : row = first := by simpa using member
      exact .inl (by simp [endedRows, filled])
    | cons next more =>
      rw [endedRows]
      rcases List.mem_cons.mp member with rfl | later
      · exact .inr List.mem_cons_self
      · exact (ih later).imp (List.mem_cons_of_mem _) (List.mem_cons_of_mem _)

/-- The lines of a text, told by its rows. -/
theorem lines_eq_rows (text : Text) : lines text = linesOfRows (rows text) := by
  unfold lines
  rw [linesWithEndings_eq_endedRows]
  have whole : ∀ row ∈ rows text, '\n' ∉ row := fun row member => feed_notMem_of_mem_rows member
  generalize rows text = all at whole
  induction all with
  | nil => rfl
  | cons row rest ih =>
    cases rest with
    | nil =>
      by_cases blank : row = []
      · simp [endedRows, linesOfRows, blank]
      · simp [endedRows, linesOfRows, blank, withoutEnding_of_notMem (whole row (by simp))]
    | cons next more =>
      simp only [endedRows, linesOfRows, List.map_cons, withoutEnding_append_feed]
      rw [ih fun row member => whole row (List.mem_cons_of_mem _ member)]

/-- Every row is a line up to a carriage return, unless it is empty. -/
theorem mem_linesOfRows {all : List Text} {row : Text} (member : row ∈ all) :
    row = [] ∨ row ∈ linesOfRows all ∨ withoutReturn row ∈ linesOfRows all := by
  induction all with
  | nil => simp at member
  | cons first rest ih =>
    cases rest with
    | nil =>
      obtain rfl : row = first := by simpa using member
      by_cases blank : row = []
      · exact .inl blank
      · exact .inr (.inl (by simp [linesOfRows, blank]))
    | cons next more =>
      rcases List.mem_cons.mp member with rfl | later
      · exact .inr (.inr (by simp [linesOfRows]))
      · rcases ih later with blank | same | cut
        · exact .inl blank
        · exact .inr (.inl (by simp [linesOfRows, same]))
        · exact .inr (.inr (by simp [linesOfRows, cut]))

/-- Every line is a row, or becomes one with a carriage return behind it. -/
theorem mem_of_mem_linesOfRows {all : List Text} {line : Text} (member : line ∈ linesOfRows all) :
    line ∈ all ∨ line ++ ['\x0d'] ∈ all := by
  induction all with
  | nil => simp [linesOfRows] at member
  | cons first rest ih =>
    cases rest with
    | nil =>
      by_cases blank : first = []
      · simp [linesOfRows, blank] at member
      · simp only [linesOfRows, List.isEmpty_iff, blank, ↓reduceIte] at member
        exact .inl member
    | cons next more =>
      rcases List.mem_cons.mp member with rfl | later
      · rcases withoutReturn_cases first with same | same
        · exact .inl (by rw [← same]; exact List.mem_cons_self)
        · exact .inr (by rw [← same]; exact List.mem_cons_self)
      · rcases ih later with same | same
        · exact .inl (List.mem_cons_of_mem _ same)
        · exact .inr (List.mem_cons_of_mem _ same)

/-- No line holds a line feed. -/
theorem feed_notMem_of_mem_lines {text line : Text} (member : line ∈ lines text) :
    '\n' ∉ line := by
  rw [lines_eq_rows] at member
  rcases mem_of_mem_linesOfRows member with same | longer
  · exact feed_notMem_of_mem_rows same
  · intro inside
    exact feed_notMem_of_mem_rows longer (List.mem_append_left _ inside)

/-- Every row of the first text is a row of the second one, possibly without a carriage return at
its end, or it is empty. -/
def Carried (text other : Text) : Prop :=
  ∀ row ∈ rows text, row = [] ∨ row ∈ rows other ∨ ∃ kept ∈ rows other, row = kept ++ ['\x0d']

/-- What holds of a text and of every text that carries it. -/
def Lasting (holds : Text → Prop) : Prop :=
  ∀ {text other : Text}, Carried text other → holds text → holds other

/-- Lines put between others carry the text of these. -/
theorem carried_insert (before added after : List Text) :
    Carried (unlines (before ++ after)) (unlines (before ++ added ++ after)) := by
  intro row member
  by_cases none : before ++ after = []
  · rw [none] at member
    exact .inl (by simpa [unlines, joinWith] using member)
  · have some : before ++ added ++ after ≠ [] := by
      simp only [ne_eq, List.append_eq_nil_iff, not_and] at none ⊢
      exact fun empty => none empty.1
    rw [rows_unlines none] at member
    rw [rows_unlines some]
    refine .inr (.inl ?_)
    simp only [List.flatMap_append, List.mem_append] at member ⊢
    rcases member with first | last
    · exact .inl (.inl first)
    · exact .inr last

/-- The lines of a text carry it. -/
theorem carried_lines (text : Text) : Carried text (unlines (lines text)) := by
  intro row member
  have all := mem_linesOfRows member
  rw [← lines_eq_rows] at all
  rcases all with blank | same | cut
  · exact .inl blank
  · have some : lines text ≠ [] := List.ne_nil_of_mem same
    refine .inr (.inl ?_)
    rwa [rows_unlines_of_notMem some fun line => feed_notMem_of_mem_lines]
  · have some : lines text ≠ [] := List.ne_nil_of_mem cut
    have here : withoutReturn row ∈ rows (unlines (lines text)) := by
      rwa [rows_unlines_of_notMem some fun line => feed_notMem_of_mem_lines]
    rcases withoutReturn_cases row with same | same
    · exact .inr (.inl (same ▸ here))
    · exact .inr (.inr ⟨_, here, same⟩)

/-- A text is carried by any longer one that begins with it and goes on with a line feed. -/
theorem carried_append_feed (text rest : Text) : Carried text (text ++ '\n' :: rest) := by
  intro row member
  rw [rows_append_cons]
  exact .inr (.inl (List.mem_append_left _ member))

/-- Joined texts hold each of them. -/
theorem infix_joinWith (separator : Text) {texts : List Text} {text : Text}
    (member : text ∈ texts) : text <:+: joinWith separator texts := by
  induction texts with
  | nil => simp at member
  | cons first rest ih =>
    cases rest with
    | nil =>
      obtain rfl : text = first := by simpa using member
      exact List.infix_rfl
    | cons next more =>
      rw [joinWith]
      rcases List.mem_cons.mp member with rfl | later
      · rw [List.append_assoc]
        exact (List.prefix_append _ _).isInfix
      · exact (ih later).trans (List.suffix_append _ _).isInfix

/-- A line of a text is a part of it. -/
theorem infix_of_mem_lines {text line : Text} (member : line ∈ lines text) :
    line <:+: text := by
  have row : ∀ {row : Text}, row ∈ rows text → row <:+: text := by
    intro row listed
    have inside := infix_joinWith ['\n'] listed
    rwa [show joinWith ['\n'] (rows text) = text from unlines_rows text] at inside
  rw [lines_eq_rows] at member
  rcases mem_of_mem_linesOfRows member with same | longer
  · exact row same
  · exact (List.prefix_append line ['\x0d']).isInfix.trans (row longer)

end Scaffold.Text
