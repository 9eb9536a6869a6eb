import Mathlib.Algebra.GroupWithZero.Nat
import Mathlib.Algebra.Order.BigOperators.Group.List
import Mathlib.Algebra.Order.Group.Nat
import Mathlib.Data.List.TakeWhile
import Scaffold.Code.Layout
import Scaffold.Proofs.Template.Row
import Scaffold.Proofs.Template.Vocabulary
import Scaffold.Proofs.Text.Atom

/-!
# What the rows of code declare

Code is read row by row. A reader finds the same names in a row whatever its margin is and whether a
carriage return ends it (`Code.Reader`), so what code declares is read back through every step that
writes it: lines are joined, indented (`Reader.declared_indent`) and put in the place of a token. A
row may be read before it is whole: where its beginning settles what it declares, the rest does not
matter. So most lines of a template are read without the values of their tokens
(`Reader.declared_template`). There are two readers, one for the methods of a class and one for the
constants of a page.
-/
namespace Scaffold

open Text

namespace Text

/-- A start that does not hold a character is found without this character behind the text too. -/
theorem afterStart?_concat {start : Text} {c : Char} (absent : c ∉ start) (text : Text) :
    afterStart? (text ++ [c]) start = (afterStart? text start).map (· ++ [c]) := by
  induction start generalizing text with
  | nil => cases text <;> rfl
  | cons s start ih =>
    rw [List.mem_cons, not_or] at absent
    cases text with
    | nil => exact if_neg absent.1
    | cons d text =>
      rw [List.cons_append, afterStart?, afterStart?]
      split
      · exact ih absent.2 text
      · rfl

/-- The text before a separator does not depend on another character at the end. -/
theorem splitFirst?_concat {separator c : Char} (other : c ≠ separator) (text : Text) :
    (splitFirst? separator (text ++ [c])).map (·.1) = (splitFirst? separator text).map (·.1) := by
  induction text with
  | nil => simp [splitFirst?, other]
  | cons d text ih =>
    rw [List.cons_append, splitFirst?, splitFirst?]
    split
    · rfl
    · have later := congrArg (Option.map (d :: ·)) ih
      rw [Option.map_map, Option.map_map] at later
      rw [Option.map_map, Option.map_map]
      exact later

/-- Neither does it depend on what stands behind the separator. -/
theorem splitFirst?_append_of_mem {separator : Char} {text : Text} (inside : separator ∈ text)
    (rest : Text) :
    (splitFirst? separator (text ++ rest)).map (·.1) = (splitFirst? separator text).map (·.1) := by
  obtain ⟨before, after, rfl, absent⟩ := List.eq_append_cons_of_mem inside
  rw [List.append_assoc, List.cons_append, splitFirst?_append absent, splitFirst?_append absent]
  rfl

/-- A character that is not among those of a literal does not stand in it. -/
theorem notMem_toList {c : Char} {characters : List Char} (absent : c ∉ characters) :
    c ∉ (String.ofList characters).toList := by
  rwa [String.toList_ofList]

/-- A start that a text neither begins with nor is a part of is not found behind the text either. -/
theorem afterStart?_append_of_none {text start : Text} (absent : afterStart? text start = none)
    (apart : text.isPrefixOf start = false) (rest : Text) : afterStart? (text ++ rest) start = none := by
  cases found : afterStart? (text ++ rest) start with
  | none => rfl
  | some behind =>
    have whole := eq_append_of_afterStart? found
    have fronts := List.prefix_or_prefix_of_prefix (List.prefix_append text rest)
      (whole ▸ List.prefix_append start behind)
    rcases fronts with part | ⟨more, same⟩
    · rw [List.isPrefixOf_iff_prefix.mpr part] at apart
      exact Bool.noConfusion apart
    · rw [← same, afterStart?_append] at absent
      exact absurd absent (Option.some_ne_none more)

/-- A start that a text begins with is found behind it too. -/
theorem afterStart?_append_of_some {text start behind : Text}
    (found : afterStart? text start = some behind) (rest : Text) :
    afterStart? (text ++ rest) start = some (behind ++ rest) := by
  rw [eq_append_of_afterStart? found, List.append_assoc, afterStart?_append]

end Text

namespace Code

/-- A way to find names in a row of code. -/
structure Reader where
  /-- The names in a row. -/
  row : Text → List Text
  /-- The beginning of a row tells all its names. -/
  settles : Text → Bool
  /-- An empty row has no names. -/
  empty : row [] = []
  /-- A margin does not matter. -/
  margin : ∀ margin text, (∀ c ∈ margin, isBlank c = true) → row (margin ++ text) = row text
  /-- Neither does a carriage return at the end. -/
  ending : ∀ text, row (text ++ ['\x0d']) = row text
  /-- Nothing matters behind a beginning that tells all. -/
  settled : ∀ start rest, settles start = true → row (start ++ rest) = row start

/-- What becomes of a line of a template. -/
inductive LineReading where
  /-- The line has these names, whatever the values of its tokens are. -/
  | names (names : List Text)
  /-- The line has the names that the value of the token has. -/
  | value (placeholder : Placeholder)
  /-- The line is read when it is filled. -/
  | whole (line : Text)
deriving DecidableEq

/-- The line feeds that a piece adds to a line, if the values of these tokens have none. A piece that
may add any number counts twice. -/
def feeds (tokens : List Placeholder) : Piece → Nat
  | .literal text => text.count '\n'
  | .token placeholder => if placeholder ∈ tokens then 0 else 2
  | .block _ _ _ => 2

/-- A piece that adds one line feed at most adds as many as are counted. -/
theorem count_fill {tokens : List Placeholder} {value : Placeholder → Text}
    (single : ∀ placeholder ∈ tokens, '\n' ∉ value placeholder) {piece : Piece}
    (few : feeds tokens piece ≤ 1) : (piece.fill value).count '\n' = feeds tokens piece := by
  cases piece with
  | literal text => rfl
  | token placeholder =>
    simp only [feeds] at few ⊢
    split at few
    · rename_i listed
      rw [if_pos listed]
      exact List.count_eq_zero.mpr (single placeholder listed)
    · exact absurd few (by omega)
  | block margin placeholder ending => exact absurd few (by simp [feeds])

namespace Reader

variable (reader : Reader) {margin text start rest row : Text} {lines : List Text}

/-- The names in the rows of a text, in order. -/
def declared (text : Text) : List Text := (rows text).flatMap reader.row

/-- A row without its carriage return has the same names. -/
theorem row_withoutReturn (text : Text) : reader.row (withoutReturn text) = reader.row text := by
  rcases withoutReturn_cases text with same | longer
  · rw [← same]
  · conv => rhs; rw [longer]
    exact (reader.ending _).symm

/-- A blank row has none. -/
theorem row_of_isBlankText (blank : isBlankText text = true) : reader.row text = [] := by
  have same := reader.margin text [] (List.all_eq_true.mp blank)
  rwa [List.append_nil, reader.empty] at same

/-- The empty text has none. -/
@[simp] theorem declared_nil : reader.declared [] = [] := by
  rw [declared, rows_of_notMem List.not_mem_nil, List.flatMap_singleton, reader.empty]

/-- A single row has its own names. -/
theorem declared_of_notMem (single : '\n' ∉ text) : reader.declared text = reader.row text := by
  rw [declared, rows_of_notMem single, List.flatMap_singleton]

/-- A single row has the names that its beginning tells. -/
theorem declared_start (settled : reader.settles start = true) (front : '\n' ∉ start)
    (single : '\n' ∉ rest) : reader.declared (start ++ rest) = reader.row start := by
  rw [reader.declared_of_notMem, reader.settled start rest settled]
  rw [List.mem_append, not_or]
  exact ⟨front, single⟩

/-- A row that begins with this text has no names. -/
def isQuiet (start : Text) : Bool :=
  reader.settles start && (reader.row start).isEmpty && !start.contains '\n'

/-- A single row with such a beginning has none. -/
theorem declared_quiet (quiet : reader.isQuiet start = true) (single : '\n' ∉ rest) :
    reader.declared (start ++ rest) = [] := by
  simp only [isQuiet, Bool.and_eq_true, List.isEmpty_iff, Bool.not_eq_true', List.contains_eq_mem,
    decide_eq_false_iff_not] at quiet
  obtain ⟨⟨settled, none⟩, front⟩ := quiet
  rw [reader.declared_start settled front single, none]

/-- A single row that begins with a literal of these characters has none. -/
theorem declared_literal {characters : List Char} (quiet : reader.isQuiet characters = true)
    (single : '\n' ∉ rest) :
    reader.declared ((String.ofList characters).toList ++ rest) = [] := by
  rw [String.toList_ofList]
  exact reader.declared_quiet quiet single

/-- A row whose beginning shows that it has no names. -/
def IsSilent (line : Text) : Prop :=
  ∃ start rest, reader.isQuiet start = true ∧ '\n' ∉ rest ∧ line = start ++ rest

/-- Such a row has none. -/
theorem IsSilent.declared_eq {reader : Reader} (silent : reader.IsSilent row) : reader.declared row = [] := by
  obtain ⟨start, rest, quiet, single, rfl⟩ := silent
  exact reader.declared_quiet quiet single

/-- It has none whatever follows in it. -/
theorem IsSilent.append {reader : Reader} (silent : reader.IsSilent row) (single : '\n' ∉ rest) :
    reader.IsSilent (row ++ rest) := by
  obtain ⟨start, own, quiet, whole, rfl⟩ := silent
  refine ⟨start, own ++ rest, quiet, ?_, List.append_assoc start own rest⟩
  rw [List.mem_append, not_or]
  exact ⟨whole, single⟩

/-- The names in front of a line feed come before those behind it. -/
theorem declared_append_feed (before after : Text) :
    reader.declared (before ++ '\n' :: after) = reader.declared before ++ reader.declared after := by
  rw [declared, rows_append_cons, List.flatMap_append, declared, declared]

/-- The names in an ended text come before those behind it. -/
theorem declared_append {before : Text} (ended : Template.Ended before) (after : Text) :
    reader.declared (before ++ after) = reader.declared before ++ reader.declared after := by
  rcases ended with rfl | ⟨front, rfl⟩
  · rw [reader.declared_nil]
    rfl
  · rw [List.append_assoc, List.singleton_append, reader.declared_append_feed,
      reader.declared_append_feed, reader.declared_nil, List.append_nil]

/-- Joined lines have the names that each of them has. -/
theorem declared_unlines (lines : List Text) :
    reader.declared (unlines lines) = lines.flatMap reader.declared := by
  by_cases none : lines = []
  · rw [none]
    exact reader.declared_nil
  · rw [declared, rows_unlines none, List.flatMap_assoc]
    rfl

/-- The lines of a text have the names that its rows have. -/
theorem flatMap_row_lines (text : Text) :
    (Text.lines text).flatMap reader.row = reader.declared text := by
  rw [lines_eq_rows, declared]
  induction rows text with
  | nil => rfl
  | cons row rest ih =>
    cases rest with
    | nil =>
      rw [linesOfRows]
      split
      · rename_i none
        rw [List.isEmpty_iff.mp none, List.flatMap_singleton, reader.empty]
        rfl
      · rfl
    | cons next more =>
      rw [linesOfRows, List.flatMap_cons, ih, reader.row_withoutReturn]
      rfl

/-- Indented lines have the names that the lines have. -/
theorem declared_indent (blank : ∀ c ∈ margin, isBlank c = true) (single : '\n' ∉ margin)
    (text : Text) : reader.declared (indent margin text) = reader.declared text := by
  rw [indent, reader.declared_unlines, ← reader.flatMap_row_lines text, indentLines,
    List.flatMap_map]
  refine List.flatMap_congr fun line listed => ?_
  have whole : '\n' ∉ line := feed_notMem_of_mem_lines listed
  split
  · rename_i none
    rw [reader.row_of_isBlankText none, reader.declared_nil]
  · rw [reader.declared_of_notMem, reader.margin margin line blank]
    rw [List.mem_append, not_or]
    exact ⟨single, whole⟩

/-- A margin in front of a text does not matter. -/
theorem declared_margin (blank : ∀ c ∈ margin, isBlank c = true) (single : '\n' ∉ margin)
    (text : Text) : reader.declared (margin ++ text) = reader.declared text := by
  obtain ⟨first, rest, split⟩ := List.exists_cons_of_ne_nil (rows_ne_nil text)
  have longer : rows (margin ++ text) = (margin ++ first) :: rest := splitOn_append_left single split
  rw [declared, declared, longer, split, List.flatMap_cons, List.flatMap_cons,
    reader.margin margin first blank]

/-- Deeper lines have the names that the lines have. -/
theorem declared_deeper (lines : List Text) :
    (deeper lines).flatMap reader.declared = lines.flatMap reader.declared := by
  rw [deeper, List.flatMap_map]
  refine List.flatMap_congr fun line _ => ?_
  split
  · rename_i none
    rw [List.isEmpty_iff.mp none]
  · exact reader.declared_margin (by decide) (by decide) line

/-- A block has the names of its opening line, of the lines inside and of its closing line. -/
theorem declared_block (opening : Text) (lines : List Text) (closing : Text) :
    (block opening lines closing).flatMap reader.declared = reader.declared opening ++
      (lines.flatMap reader.declared ++ reader.declared closing) := by
  rw [block, List.flatMap_append, List.flatMap_cons, reader.declared_deeper,
    List.flatMap_singleton, List.append_assoc]

/-- Lines below an empty one have the names that they have by themselves. -/
theorem declared_below (lines : List Text) :
    (below lines).flatMap reader.declared = lines.flatMap reader.declared := by
  cases lines with
  | nil => rfl
  | cons line lines =>
    rw [below, List.flatMap_cons, reader.declared_nil, List.nil_append]

/-- How a line with its end is read, given its pieces, if the values of these tokens hold no line
feed. -/
def piecesReading (tokens : List Placeholder) (text : Text) : List Piece → LineReading
  | [.block margin placeholder ending] =>
    if margin.all isBlank && !margin.contains '\n' && ending == ['\n'] then .value placeholder
    else .whole text
  | .literal start :: rest =>
    let opening := start.takeWhile (· != '\n')
    if ((.literal start :: rest).map (feeds tokens)).sum == 1 &&
        (rest.isEmpty || reader.settles opening) then .names (reader.row opening)
    else .whole text
  | _ => .whole text

/-- How a line of a template is read. -/
def lineReading (tokens : List Placeholder) (line : Text) : LineReading :=
  reader.piecesReading tokens (line ++ ['\n']) (Template.pieces (line ++ ['\n']))

/-- How a line is read, with the names of the tokens looked up by their letters. -/
theorem lineReading_eq (tokens : List Placeholder) (line : Text) :
    reader.lineReading tokens line = reader.piecesReading tokens (line ++ ['\n'])
      ((linesWithEndings (line ++ ['\n'])).flatMap (Template.linePiecesIn Template.spelled?)) := by
  rw [lineReading, Template.pieces_eq]

/-- The names of a line that is read. -/
def found (value : Placeholder → Text) : LineReading → List Text
  | .names names => names
  | .value placeholder => reader.declared (value placeholder)
  | .whole line => reader.declared (Template.fill line value)

/-- A line that adds one line feed is a single row that begins as its first piece does. -/
theorem exists_row {tokens : List Placeholder} {value : Placeholder → Text}
    (single : ∀ placeholder ∈ tokens, '\n' ∉ value placeholder) {line start : Text}
    {others : List Piece} (read : Template.pieces (line ++ ['\n']) = .literal start :: others)
    (once : ((Piece.literal start :: others).map (feeds tokens)).sum = 1) :
    ∃ rest, Template.fill (line ++ ['\n']) value = start.takeWhile (· != '\n') ++ rest ++ ['\n'] ∧
      '\n' ∉ rest ∧ (others = [] → rest = []) := by
  have feed : (Template.fill (line ++ ['\n']) value).count '\n' = 1 := by
    rw [Template.fill, read, List.count_flatMap, ← once]
    congr 1
    refine List.map_congr_left fun piece member => count_fill single ?_
    rw [← once]
    exact List.single_le_sum (fun _ _ => Nat.zero_le _) _ (List.mem_map_of_mem member)
  rcases Template.ended_fill line value with empty | ⟨front, filled⟩
  · rw [empty] at feed
    exact absurd feed (by decide)
  · have clean : '\n' ∉ front := by
      rw [filled, List.count_append] at feed
      exact List.count_eq_zero.mp (Nat.add_right_cancel feed)
    have whole : start ++ others.flatMap (Piece.fill value) = front ++ ['\n'] := by
      rw [← filled, Template.fill, read]
      rfl
    have part : start.takeWhile (· != '\n') <+: front ++ ['\n'] :=
      (List.takeWhile_prefix _).trans (whole ▸ List.prefix_append start _)
    rcases List.prefix_concat_iff.mp part with same | ⟨rest, split⟩
    · have last : '\n' ∈ start.takeWhile (· != '\n') := by
        rw [same]
        simp
      exact absurd (List.mem_takeWhile_imp last) (by decide)
    · refine ⟨rest, by rw [filled, split], fun inside => clean ?_, ?_⟩
      · rw [← split]
        exact List.mem_append_right _ inside
      · rintro rfl
        rw [List.flatMap_nil, List.append_nil] at whole
        have kept : ∀ c ∈ front, (c != '\n') = true := by
          rintro c inside
          rw [bne_iff_ne]
          rintro rfl
          exact clean inside
        rw [whole, List.takeWhile_append_of_pos kept] at split
        simpa using split

/-- A line of a template has the names that it is read to have. -/
theorem declared_line {tokens : List Placeholder} {value : Placeholder → Text}
    (single : ∀ placeholder ∈ tokens, '\n' ∉ value placeholder) (line : Text) :
    reader.declared (Template.fill (line ++ ['\n']) value) =
      reader.found value (reader.lineReading tokens line) := by
  simp only [lineReading, piecesReading]
  split
  · rename_i margin placeholder ending read
    split
    · rename_i plain
      simp only [Bool.and_eq_true, List.all_eq_true, Bool.not_eq_true', List.contains_eq_mem,
        decide_eq_false_iff_not, beq_iff_eq] at plain
      obtain ⟨⟨blank, whole⟩, rfl⟩ := plain
      rw [Template.fill, read, found, List.flatMap_singleton, Piece.fill]
      split
      · rename_i empty
        rw [empty]
      · rename_i some
        rw [reader.declared_append_feed, reader.declared_nil, List.append_nil,
          reader.declared_indent blank whole, some]
    · rfl
  · rename_i start others read
    split
    · rename_i row
      rw [Bool.and_eq_true, beq_iff_eq, Bool.or_eq_true] at row
      obtain ⟨once, known⟩ := row
      obtain ⟨rest, filled, clean, short⟩ := exists_row single read once
      have front : '\n' ∉ start.takeWhile (· != '\n') :=
        fun inside => absurd (List.mem_takeWhile_imp inside) (by decide)
      rw [filled, reader.declared_append_feed, reader.declared_nil, List.append_nil, found]
      rcases known with alone | settled
      · rw [short (List.isEmpty_iff.mp alone), List.append_nil, reader.declared_of_notMem front]
      · exact reader.declared_start settled front clean
    · rfl
  · rfl

/-- A filled template has the names of its lines. -/
theorem declared_template {tokens : List Placeholder} {value : Placeholder → Text}
    (single : ∀ placeholder ∈ tokens, '\n' ∉ value placeholder) (lines : List String) :
    reader.declared (Template.fill (Code.written lines) value) =
      ((lines.map fun line => reader.lineReading tokens line.toList).filter
        (· ≠ .names [])).flatMap (reader.found value) := by
  rw [Template.fill_written]
  induction lines with
  | nil => exact reader.declared_nil
  | cons line rest ih =>
    rw [List.flatMap_cons, reader.declared_append (Template.ended_fill line.toList value), ih,
      reader.declared_line single, List.map_cons]
    by_cases silent : reader.lineReading tokens line.toList = .names []
    · rw [silent, List.filter_cons_of_neg (by simp)]
      rfl
    · rw [List.filter_cons_of_pos (by simpa using silent), List.flatMap_cons]

end Reader

/-- What stands behind an opening, where a row begins with it behind its margin. -/
def behind? (row opening : Text) : Option Text := afterStart? (trimStart row) opening

/-- The beginning of a row shows whether the row has an opening. -/
def decides (start opening : Text) : Bool :=
  (behind? start opening).isSome || !(trimStart start).isPrefixOf opening

/-- A margin does not matter for what stands behind an opening. -/
theorem behind?_margin {margin : Text} (blank : ∀ c ∈ margin, isBlank c = true)
    (row opening : Text) : behind? (margin ++ row) opening = behind? row opening := by
  have same : trimStart (margin ++ row) = trimStart row := List.dropWhile_append_of_pos blank
  rw [behind?, behind?, same]

/-- A carriage return at the end of a row stands behind the opening. -/
theorem behind?_ending {opening : Text} (absent : '\x0d' ∉ opening) (some : opening ≠ [])
    (row : Text) : behind? (row ++ ['\x0d']) opening = (behind? row opening).map (· ++ ['\x0d']) := by
  have trimmed : trimStart (row ++ ['\x0d']) =
      if (trimStart row).isEmpty then [] else trimStart row ++ ['\x0d'] :=
    List.dropWhile_append
  rw [behind?, behind?, trimmed]
  split
  · rename_i empty
    obtain ⟨c, rest, rfl⟩ := List.exists_cons_of_ne_nil some
    rw [List.isEmpty_iff.mp empty]
    rfl
  · exact afterStart?_concat absent (trimStart row)

/-- What follows the beginning of a row stands behind the opening as well. -/
theorem behind?_append {start opening : Text} (some : opening ≠ [])
    (decided : decides start opening = true) (rest : Text) :
    behind? (start ++ rest) opening = (behind? start opening).map (· ++ rest) := by
  have trimmed : trimStart (start ++ rest) =
      if (trimStart start).isEmpty then trimStart rest else trimStart start ++ rest :=
    List.dropWhile_append
  unfold decides behind? at decided
  rw [behind?, behind?, trimmed]
  split
  · rename_i empty
    obtain ⟨c, more, rfl⟩ := List.exists_cons_of_ne_nil some
    rw [List.isEmpty_iff.mp empty] at decided
    exact absurd decided (by simp [afterStart?])
  · cases found : afterStart? (trimStart start) opening with
    | some behind => exact afterStart?_append_of_some found rest
    | none =>
      rw [found] at decided
      exact afterStart?_append_of_none found (by simpa using decided) rest

/-- Names that stand behind openings. -/
structure Openings where
  /-- The words in front of names. -/
  words : List Text
  /-- What each of them begins with. -/
  initial : Char
  /-- The names in the text behind such words. -/
  names : Text → List Text
  /-- The beginning of this text tells all names. -/
  tells : Text → Bool
  /-- The first character is visible. -/
  visible : isBlank initial = false
  /-- An opening begins with it and holds no carriage return. -/
  legal : ∀ opening ∈ words, opening.head? = some initial ∧ '\x0d' ∉ opening
  /-- Of two openings none begins with the other one. -/
  apart : words.Pairwise fun opening other =>
    opening.isPrefixOf other = false ∧ other.isPrefixOf opening = false
  /-- A carriage return at the end does not matter. -/
  ending : ∀ text, names (text ++ ['\x0d']) = names text
  /-- Nothing matters behind a beginning that tells all. -/
  told : ∀ start rest, tells start = true → names (start ++ rest) = names start

namespace Openings

variable (openings : Openings) {opening : Text}

/-- What stands in an opening behind its first character. -/
theorem exists_rest (listed : opening ∈ openings.words) :
    ∃ rest, opening = openings.initial :: rest :=
  List.head?_eq_some_iff.mp (openings.legal opening listed).1

/-- No opening is empty. -/
theorem ne_nil (listed : opening ∈ openings.words) : opening ≠ [] := by
  obtain ⟨rest, rfl⟩ := openings.exists_rest listed
  exact List.cons_ne_nil openings.initial rest

/-- The names that a row has behind an opening. -/
def namesBehind (row opening : Text) : List Text :=
  ((behind? row opening).map openings.names).getD []

/-- The names in a row. The first character of most rows shows that there are none. -/
def namesIn (row : Text) : List Text :=
  if (trimStart row).head? = some openings.initial then
    openings.words.flatMap (openings.namesBehind row)
  else []

/-- The beginning of a row tells all its names. -/
def settles (start : Text) : Bool :=
  (trimStart start).head?.any fun c => c != openings.initial ||
    openings.words.all fun opening =>
      decides start opening && (behind? start opening).all openings.tells

/-- The first character of a row only rules out what is not there. -/
theorem namesIn_eq (row : Text) :
    openings.namesIn row = openings.words.flatMap (openings.namesBehind row) := by
  unfold namesIn
  split
  · rfl
  · rename_i other
    refine (List.flatMap_eq_nil_iff.mpr fun opening listed => ?_).symm
    obtain ⟨rest, rfl⟩ := openings.exists_rest listed
    rw [namesBehind, behind?]
    cases trimmed : trimStart row with
    | nil => rfl
    | cons c more =>
      rw [trimmed, List.head?_cons, Option.some.injEq] at other
      rw [afterStart?, if_neg other]
      rfl

/-- A row that begins with another character has none. -/
theorem namesIn_of_ne {row : Text} (other : (trimStart row).head? ≠ some openings.initial) :
    openings.namesIn row = [] := if_neg other

/-- Nothing matters behind a beginning that tells all. -/
theorem namesIn_append {start : Text} (settled : openings.settles start = true) (rest : Text) :
    openings.namesIn (start ++ rest) = openings.namesIn start := by
  rw [settles, Option.any_eq_true] at settled
  obtain ⟨c, first, known⟩ := settled
  obtain ⟨more, trimmed⟩ := List.head?_eq_some_iff.mp first
  have longer : trimStart (start ++ rest) = c :: (more ++ rest) := by
    have append : trimStart (start ++ rest) = if (trimStart start).isEmpty then trimStart rest
        else trimStart start ++ rest := List.dropWhile_append
    rw [append, trimmed]
    rfl
  rw [Bool.or_eq_true, bne_iff_ne] at known
  rcases known with other | all
  · rw [openings.namesIn_of_ne, openings.namesIn_of_ne]
    · simpa [trimmed] using other
    · simpa [longer] using other
  · rw [namesIn_eq, namesIn_eq]
    refine List.flatMap_congr fun opening listed => ?_
    have both := List.all_eq_true.mp all opening listed
    rw [Bool.and_eq_true] at both
    rw [namesBehind, namesBehind, behind?_append (openings.ne_nil listed) both.1]
    cases found : behind? start opening with
    | none => rfl
    | some behind =>
      rw [found] at both
      exact openings.told behind rest both.2

/-- The reader of the names behind the openings. -/
def reader : Reader where
  row := openings.namesIn
  settles := openings.settles
  empty := openings.namesIn_of_ne (by simp [trimStart])
  margin margin text blank := by
    rw [namesIn_eq, namesIn_eq]
    refine List.flatMap_congr fun opening listed => ?_
    rw [namesBehind, namesBehind, behind?_margin blank]
  ending text := by
    rw [namesIn_eq, namesIn_eq]
    refine List.flatMap_congr fun opening listed => ?_
    rw [namesBehind, namesBehind,
      behind?_ending (openings.legal opening listed).2 (openings.ne_nil listed)]
    cases behind? text opening with
    | none => rfl
    | some behind => exact openings.ending behind
  settled _ rest settled := openings.namesIn_append settled rest

/-- A row that begins with an opening has the names that stand behind it. -/
theorem row_opening (listed : opening ∈ openings.words) (rest : Text) :
    openings.reader.row (opening ++ rest) = openings.names rest := by
  have start : trimStart (opening ++ rest) = opening ++ rest := by
    obtain ⟨more, rfl⟩ := openings.exists_rest listed
    exact List.dropWhile_cons_of_neg (by rw [openings.visible]; exact Bool.false_ne_true)
  have own : openings.namesBehind (opening ++ rest) opening = openings.names rest := by
    rw [namesBehind, behind?, start, afterStart?_append]
    rfl
  have none : ∀ other : Text, opening.isPrefixOf other = false → other.isPrefixOf opening = false →
      openings.namesBehind (opening ++ rest) other = [] := by
    intro other first second
    rw [namesBehind, behind?, start]
    cases found : afterStart? (opening ++ rest) other with
    | none => rfl
    | some behind =>
      have whole := eq_append_of_afterStart? found
      have front : other <+: opening ++ rest := whole ▸ List.prefix_append _ _
      rcases List.prefix_or_prefix_of_prefix (List.prefix_append opening rest) front with part | part
      · rw [List.isPrefixOf_iff_prefix.mpr part] at first
        exact Bool.noConfusion first
      · rw [List.isPrefixOf_iff_prefix.mpr part] at second
        exact Bool.noConfusion second
  obtain ⟨before, after, split⟩ := List.append_of_mem listed
  have apart := openings.apart
  rw [split, List.pairwise_append, List.pairwise_cons] at apart
  obtain ⟨-, ⟨behind, -⟩, front⟩ := apart
  have first : before.flatMap (openings.namesBehind (opening ++ rest)) = [] :=
    List.flatMap_eq_nil_iff.mpr fun other member =>
      none other (front other member opening List.mem_cons_self).2
        (front other member opening List.mem_cons_self).1
  have last : after.flatMap (openings.namesBehind (opening ++ rest)) = [] :=
    List.flatMap_eq_nil_iff.mpr fun other member => none other (behind other member).1
      (behind other member).2
  show openings.namesIn (opening ++ rest) = openings.names rest
  rw [namesIn_eq, split, List.flatMap_append, List.flatMap_cons, first, last, own, List.append_nil,
    List.nil_append]

/-- A row in which a sign follows the first word has no names if every opening is more than one word
and holds no such sign. -/
theorem declared_word {sign : Char} {word rest : Text} (solid : ∀ c ∈ word, isBlank c = false)
    (visible : isBlank sign = false)
    (signs : ∀ opening ∈ openings.words, ' ' ∈ opening ∧ sign ∉ opening) (single : '\n' ∉ rest) :
    openings.reader.declared (word ++ sign :: rest) = [] := by
  have front : ∀ c ∈ word ++ [sign], isBlank c = false := by
    intro c inside
    rcases List.mem_append.mp inside with own | last
    · exact solid c own
    · rwa [List.mem_singleton.mp last]
  have parts : word ++ sign :: rest = word ++ [sign] ++ rest := by
    rw [List.append_assoc, List.singleton_append]
  have start : trimStart (word ++ sign :: rest) = word ++ [sign] ++ rest := by
    rw [parts]
    cases word with
    | nil => exact List.dropWhile_cons_of_neg (by rw [visible]; exact Bool.false_ne_true)
    | cons c more =>
      exact List.dropWhile_cons_of_neg (by rw [solid c List.mem_cons_self]; exact Bool.false_ne_true)
  have feeds : '\n' ∉ word ++ sign :: rest := by
    rw [parts, List.mem_append, not_or]
    exact ⟨fun inside => absurd (front '\n' inside) (by decide), single⟩
  rw [openings.reader.declared_of_notMem feeds]
  show openings.namesIn _ = []
  rw [namesIn_eq]
  refine List.flatMap_eq_nil_iff.mpr fun opening listed => ?_
  rw [namesBehind, behind?, start]
  cases found : afterStart? (word ++ [sign] ++ rest) opening with
  | none => rfl
  | some behind =>
    have whole := eq_append_of_afterStart? found
    -- Either the opening ends within the word, or the sign stands in it.
    rcases List.prefix_or_prefix_of_prefix (List.prefix_append (word ++ [sign]) rest)
      (whole ▸ List.prefix_append opening behind) with part | part
    · exact absurd (part.subset (List.mem_append_right _ List.mem_cons_self)) (signs opening listed).2
    · exact absurd (front ' ' (part.subset (signs opening listed).1)) (by decide)

end Openings

/-- The text in front of a separator. -/
def before (separator : Char) (text : Text) : List Text :=
  ((splitFirst? separator text).map (·.1)).toList

/-- A carriage return at the end does not matter. -/
theorem before_concat {separator : Char} (other : '\x0d' ≠ separator) (text : Text) :
    before separator (text ++ ['\x0d']) = before separator text := by
  rw [before, before, splitFirst?_concat other]

/-- A text without the separator stands in front of it. -/
theorem before_of_notMem {separator : Char} {text : Text} (absent : separator ∉ text)
    (rest : Text) : before separator (text ++ separator :: rest) = [text] := by
  rw [before, splitFirst?_append absent]
  rfl

/-- Nothing matters behind a separator. -/
theorem before_append {separator : Char} {text : Text} (inside : text.contains separator = true)
    (rest : Text) : before separator (text ++ rest) = before separator text := by
  rw [before, before, splitFirst?_append_of_mem (by simpa using inside)]

/-- The methods of a class, each in front of the bracket of its parameters. -/
def methodOpenings : Openings where
  words := List.map String.toList
    ["public function ", "protected static function ", "private static function ",
      "private function "]
  initial := 'p'
  names := before '('
  tells := (·.contains '(')
  visible := by decide
  legal := by decide
  apart := by decide
  ending := before_concat (by decide)
  told := fun _ rest inside => before_append inside rest

/-- The parts of a list or a record in front of the sign that closes it. -/
def partsBefore (closing : Char) (text : Text) : List Text :=
  (before closing text).flatMap fun names => (splitOn ',' names).map trim

/-- The constants that one declaration takes from a value: the parts of a list or a record, or one
constant in front of its type. -/
def constantNames (text : Text) : List Text :=
  if text.head? = some '[' then partsBefore ']' (text.drop 1)
  else if text.head? = some '\x7b' then partsBefore '\x7d' (text.drop 1)
  else before ':' text

/-- The sign that ends the constants of a declaration stands in the text. -/
def endsConstants (text : Text) : Bool :=
  if text.head? = some '[' then (text.drop 1).contains ']'
  else if text.head? = some '\x7b' then (text.drop 1).contains '\x7d'
  else text.contains ':'

/-- A carriage return at the end does not matter. -/
theorem constantNames_concat (text : Text) :
    constantNames (text ++ ['\x0d']) = constantNames text := by
  cases text with
  | nil => rfl
  | cons c text =>
    have inner : ∀ closing : Char, '\x0d' ≠ closing →
        partsBefore closing (text ++ ['\x0d']) = partsBefore closing text := by
      intro closing other
      rw [partsBefore, before_concat other, partsBefore]
    have outer := @before_concat ':' (by decide) (c :: text)
    rw [List.cons_append] at outer ⊢
    simp only [constantNames, List.head?_cons, List.drop_succ_cons, List.drop_zero,
      inner ']' (by decide), inner '\x7d' (by decide), outer]

/-- Nothing matters behind the sign that ends the constants. -/
theorem constantNames_append {text : Text} (ends : endsConstants text = true) (rest : Text) :
    constantNames (text ++ rest) = constantNames text := by
  cases text with
  | nil => exact absurd ends (by decide)
  | cons c text =>
    simp only [endsConstants, List.head?_cons, List.drop_succ_cons, List.drop_zero] at ends
    simp only [constantNames, List.cons_append, List.head?_cons, List.drop_succ_cons,
      List.drop_zero]
    split
    · rename_i list
      rw [if_pos list] at ends
      rw [partsBefore, before_append ends, partsBefore]
    · rename_i noList
      rw [if_neg noList] at ends
      split
      · rename_i record
        rw [if_pos record] at ends
        rw [partsBefore, before_append ends, partsBefore]
      · rename_i noRecord
        rw [if_neg noRecord] at ends
        exact before_append ends rest

/-- The constants of a page. -/
def constantOpenings : Openings where
  words := ["const ".toList]
  initial := 'c'
  names := constantNames
  tells := endsConstants
  visible := by decide
  legal := by decide
  apart := by decide
  ending := constantNames_concat
  told := fun _ rest ends => constantNames_append ends rest

/-- The reader of methods. -/
def methods : Reader := methodOpenings.reader

/-- The reader of constants. -/
def constants : Reader := constantOpenings.reader

/-- A method declares its heading and what stands in its body. -/
theorem declared_body (heading : Text) (lines : List Text) :
    (body heading lines).flatMap methods.declared =
      methods.declared heading ++ lines.flatMap methods.declared := by
  have braces : methods.declared ['\x7b'] = [] ∧ methods.declared ['\x7d'] = [] := by decide
  rw [body, List.flatMap_cons, methods.declared_block, braces.1, braces.2, List.append_nil,
    List.nil_append]

/-- A single row that opens a method declares it. -/
theorem declared_method {opening name rest : Text} (listed : opening ∈ methodOpenings.words)
    (bracket : '(' ∉ name) (single : '\n' ∉ name) (whole : '\n' ∉ rest) :
    methods.declared (opening ++ (name ++ '(' :: rest)) = [name] := by
  have unbroken : ∀ opening ∈ methodOpenings.words, '\n' ∉ opening := by decide
  rw [methods.declared_of_notMem, methods, methodOpenings.row_opening listed]
  · exact before_of_notMem bracket rest
  · rw [List.mem_append, List.mem_append, List.mem_cons, not_or, not_or, not_or]
    exact ⟨unbroken opening listed, single, by decide, whole⟩

end Code

end Scaffold
