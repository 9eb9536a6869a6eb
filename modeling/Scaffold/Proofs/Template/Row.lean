import Scaffold.Proofs.Template

/-!
# Rows of a filled template

A line of a template ends with a line feed however it is filled, unless nothing is left of it
(`Template.ended_fill`). So what is written from one line does not run into what is written from the
next, and the rows of a line stand in the whole as rows of their own (`Template.mem_rows_fill`); a
value alone on its line brings each of its lines as a row behind the margin
(`Template.mem_rows_block`).
-/
namespace Scaffold.Template

open Text

variable {text other line row : Text} {lines : List Text} {value : Placeholder → Text}

/-- The text is empty or ends with a line feed. -/
def Ended (text : Text) : Prop := text = [] ∨ ∃ front, text = front ++ ['\n']

/-- An ended text behind any other that is ended is ended. -/
theorem Ended.append (ended : Ended text) (next : Ended other) : Ended (text ++ other) := by
  rcases next with rfl | ⟨front, rfl⟩
  · rwa [List.append_nil]
  · exact .inr ⟨text ++ front, (List.append_assoc ..).symm⟩

/-- Ended texts one behind the other are ended. -/
theorem ended_flatMap {α : Type} {members : List α} {write : α → Text}
    (ended : ∀ member ∈ members, Ended (write member)) : Ended (members.flatMap write) := by
  induction members with
  | nil => exact .inl rfl
  | cons member rest ih =>
    obtain ⟨own, others⟩ := List.forall_mem_cons.mp ended
    exact own.append (ih others)

/-- A character in front of a text whose last stretch ends with a line feed, and that opens no
delimiter with it, joins its first stretch. -/
theorem splitAtDelimiters_cons_feed {c : Char} {rest : Text}
    (other : ∀ after : Text, c = '%' → rest = '%' :: after → False)
    (later : ∃ before last, splitAtDelimiters (rest ++ ['\n']) = before ++ [last ++ ['\n']]) :
    ∃ before last, splitAtDelimiters (c :: rest ++ ['\n']) = before ++ [last ++ ['\n']] := by
  obtain ⟨before, last, split⟩ := later
  have none : ∀ after : Text, c = '%' → rest ++ ['\n'] = '%' :: after → False := by
    intro after mark same
    cases rest with
    | nil => simp at same
    | cons d rest => exact other rest mark (by simp_all)
  rw [List.cons_append, splitAtDelimiters.eq_3 c (rest ++ ['\n']) none, split]
  cases before with
  | nil => exact ⟨[], c :: last, rfl⟩
  | cons first more => exact ⟨(c :: first) :: more, last, rfl⟩

/-- The last stretch of a line ends with the line feed of the line. -/
theorem splitAtDelimiters_feed (line : Text) :
    ∃ before last, splitAtDelimiters (line ++ ['\n']) = before ++ [last ++ ['\n']] := by
  induction line using splitAtDelimiters.induct with
  | case1 => exact ⟨[], [], rfl⟩
  | case2 rest ih =>
    obtain ⟨before, last, split⟩ := ih
    exact ⟨[] :: before, last, by simp [splitAtDelimiters, split]⟩
  | case3 c rest other none ih => exact splitAtDelimiters_cons_feed other ih
  | case4 c rest other first more found ih => exact splitAtDelimiters_cons_feed other ih

/-- The last stretch of a line is its last piece. -/
theorem inlinePieces_concat (before : List Text) (last : Text) :
    ∃ front, inlinePieces (before ++ [last]) = front ++ [.literal last] := by
  match before with
  | [] => exact ⟨[], rfl⟩
  | [first] => exact ⟨[.literal first, .literal delimiter], rfl⟩
  | first :: name :: rest =>
    obtain ⟨kept, named⟩ := inlinePieces_concat (name :: rest) last
    obtain ⟨behind, others⟩ := inlinePieces_concat rest last
    obtain ⟨after, more, parts⟩ := List.exists_cons_of_ne_nil
      (List.concat_ne_nil last rest : rest ++ [last] ≠ [])
    simp only [List.cons_append, parts] at named others ⊢
    simp only [inlinePieces, named, others]
    split
    · exact ⟨_ :: _ :: behind, rfl⟩
    · exact ⟨_ :: _ :: kept, rfl⟩

/-- What stands behind a line without its ending ends with the line feed. -/
theorem drop_lineBody (line : Text) :
    ∃ front, (line ++ ['\n']).drop (lineBody (line ++ ['\n'])).length = front ++ ['\n'] := by
  have same : lineBody (line ++ ['\n']) = lineBody line := by
    simp [lineBody, dropEndWhile, isLineEnd]
  have short : (lineBody line).length ≤ line.length := by
    simpa [lineBody, dropEndWhile] using (List.dropWhile_suffix (l := line.reverse) isLineEnd).length_le
  rw [same, List.drop_append_of_le_length short]
  exact ⟨_, rfl⟩

/-- A line ends with a line feed however it is filled, unless nothing is left of it. -/
theorem ended_linePieces (line : Text) (value : Placeholder → Text) :
    Ended ((linePieces (line ++ ['\n'])).flatMap (Piece.fill value)) := by
  unfold linePieces
  simp only
  split
  · rename_i placeholder _
    obtain ⟨front, ending⟩ := drop_lineBody line
    simp only [List.flatMap_cons, List.flatMap_nil, List.append_nil, Piece.fill, ending]
    split
    · exact .inl rfl
    · exact .inr ⟨_, (List.append_assoc ..).symm⟩
  · obtain ⟨before, last, split⟩ := splitAtDelimiters_feed line
    obtain ⟨front, pieces⟩ := inlinePieces_concat before (last ++ ['\n'])
    rw [split, pieces]
    exact .inr ⟨front.flatMap (Piece.fill value) ++ last, by simp [Piece.fill]⟩

/-- The lines of a text that ends with a line feed end with one. -/
theorem exists_of_mem_linesWithEndings {text line : Text}
    (member : line ∈ linesWithEndings (text ++ ['\n'])) : ∃ front, line = front ++ ['\n'] := by
  induction text generalizing line with
  | nil => exact ⟨[], by simpa [linesWithEndings] using member⟩
  | cons c rest ih =>
    rw [List.cons_append, linesWithEndings] at member
    split at member
    · rcases List.mem_cons.mp member with rfl | later
      · exact ⟨[], rfl⟩
      · exact ih later
    · split at member
      · rename_i none
        have whole := flatten_linesWithEndings (rest ++ ['\n'])
        simp [none] at whole
      · rename_i first more found
        rcases List.mem_cons.mp member with rfl | later
        · obtain ⟨front, rfl⟩ := ih (by rw [found]; exact List.mem_cons_self)
          exact ⟨c :: front, rfl⟩
        · exact ih (by rw [found]; exact List.mem_cons_of_mem _ later)

/-- A text that ends with a line feed ends with one however it is filled. -/
theorem ended_fill (text : Text) (value : Placeholder → Text) : Ended (fill (text ++ ['\n']) value) := by
  rw [fill, pieces, List.flatMap_assoc]
  refine ended_flatMap fun line member => ?_
  obtain ⟨front, rfl⟩ := exists_of_mem_linesWithEndings member
  exact ended_linePieces front value

/-- The rows of a filled line are rows of the filled template. -/
theorem mem_rows_fill {lines : List String} {line : String} {front : Text} (member : line ∈ lines)
    (filled : fill (line.toList ++ ['\n']) value = front ++ ['\n']) (inside : row ∈ rows front) :
    row ∈ rows (fill (Code.written lines) value) := by
  obtain ⟨before, after, rfl⟩ := List.append_of_mem member
  have written : fill (Code.written (before ++ line :: after)) value =
      fill (Code.written before) value ++ (front ++ '\n' :: fill (Code.written after) value) := by
    simp [fill_written, filled]
  have ended : Ended (fill (Code.written before) value) := by
    rw [fill_written]
    exact ended_flatMap fun line _ => ended_fill line.toList value
  rw [written]
  rcases ended with none | ⟨front, some⟩
  · rw [none, List.nil_append, rows_append_cons]
    exact List.mem_append_left _ inside
  · rw [some, List.append_assoc, List.singleton_append, rows_append_cons, rows_append_cons]
    exact List.mem_append_right _ (List.mem_append_left _ inside)

/-- A row of a text stands behind the margin in the indented text, unless it is blank. -/
theorem mem_rows_indent {margin : Text} (single : '\n' ∉ margin) (inside : row ∈ rows text)
    (whole : row.getLast? ≠ some '\x0d') (visible : isBlankText row = false) :
    margin ++ row ∈ rows (indent margin text) := by
  have listed : row ∈ Text.lines text := by
    have kept : withoutReturn row = row := by simp [withoutReturn, whole]
    rw [lines_eq_rows]
    rcases mem_linesOfRows inside with rfl | same | cut
    · simp [isBlankText] at visible
    · exact same
    · rwa [kept] at cut
  have indented : margin ++ row ∈ indentLines margin text :=
    List.mem_map.mpr ⟨row, listed, by simp [visible]⟩
  rw [indent, rows_unlines_of_notMem (List.ne_nil_of_mem indented)]
  · exact indented
  · intro line member
    obtain ⟨own, among, rfl⟩ := List.mem_map.mp member
    split
    · exact List.not_mem_nil
    · simp [single, feed_notMem_of_mem_lines among]

/-- A value alone on its line stands behind the margin. -/
theorem infix_block {lines : List String} {line : String} {margin ending : Text}
    {placeholder : Placeholder} (member : line ∈ lines)
    (read : pieces (line.toList ++ ['\n']) = [.block margin placeholder ending]) :
    indent margin (value placeholder) <:+: fill (Code.written lines) value := by
  refine List.IsInfix.trans ?_ (infix_fill member value)
  rw [fill, read]
  simp only [List.flatMap_cons, List.flatMap_nil, List.append_nil, Piece.fill]
  split
  · rename_i none
    rw [none]
    exact List.infix_rfl
  · rename_i some
    rw [some]
    exact (List.prefix_append _ _).isInfix

/-- A value alone on its line brings each of its lines as a row behind the margin, if that line is a
single row and not blank. -/
theorem mem_rows_block {lines : List String} {line : String} {margin : Text}
    {placeholder : Placeholder} {written : List Text} (member : line ∈ lines)
    (read : pieces (line.toList ++ ['\n']) = [.block margin placeholder ['\n']])
    (single : '\n' ∉ margin) (text : value placeholder = unlines written) (own : row ∈ written)
    (whole : '\n' ∉ row) (uncut : row.getLast? ≠ some '\x0d') (visible : isBlankText row = false) :
    margin ++ row ∈ rows (fill (Code.written lines) value) := by
  have inside : row ∈ rows (value placeholder) := by
    rw [text, rows_unlines (List.ne_nil_of_mem own)]
    exact List.mem_flatMap.mpr ⟨row, own, by rw [rows_of_notMem whole]; exact List.mem_cons_self⟩
  have indented := mem_rows_indent single inside uncut visible
  refine mem_rows_fill member ?_ indented
  rw [fill, read]
  simp only [List.flatMap_cons, List.flatMap_nil, List.append_nil, Piece.fill]
  split
  · rename_i none
    rw [none] at inside
    obtain rfl : row = [] := by simpa using inside
    simp [isBlankText] at visible
  · rename_i some
    rw [some]

end Scaffold.Template
