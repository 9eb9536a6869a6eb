import Scaffold.Proofs.Registry.Gathering
import Scaffold.Proofs.Registry.Wiring

/-!
# Entries that are told apart

A text that holds a separator once occurs in a line only across two neighbouring parts of it
(`exists_neighbours`), so where such a text is looked for shows in the parts of the line. A plain
entry is recognised by a text with a quote, which no marker holds, and none of its lines is taken
for a marker. Registrations of plain entries are a family once the lines of each entry hold the
presence of the entries with its key and of no others (`Registration.family_of`).
-/
namespace Scaffold

namespace Text

/-- A part without the separator stands in front of those behind it. -/
theorem splitOn_cons {separator : Char} {part : Text} (whole : separator ∉ part) (after : Text) :
    splitOn separator (part ++ separator :: after) = part :: splitOn separator after := by
  rw [splitOn_append_cons, splitOn_of_notMem whole, List.singleton_append]

/-- A piece at the front of a text without the separator is at the front of its first part. -/
theorem exists_first_piece {separator : Char} {piece : Text} (whole : separator ∉ piece)
    (after : Text) : ∃ first rest, splitOn separator (piece ++ after) = first :: rest ∧
      piece <+: first := by
  induction piece with
  | nil =>
    cases split : splitOn separator after with
    | nil => exact absurd split (splitWhere_ne_nil _ after)
    | cons first rest => exact ⟨first, rest, split, List.nil_prefix⟩
  | cons c piece ih =>
    obtain ⟨first, rest, split, begins⟩ := ih fun inside => whole (List.mem_cons_of_mem c inside)
    have other : c ≠ separator := by
      rintro rfl
      exact whole List.mem_cons_self
    refine ⟨c :: first, rest, ?_, List.cons_prefix_cons.mpr ⟨rfl, begins⟩⟩
    simp only [splitOn] at split
    simp [splitOn, splitWhere, other, split]

/-- A piece at the end of a text without the separator is at the end of its last part. -/
theorem exists_last_piece {separator : Char} {piece : Text} (whole : separator ∉ piece)
    (before : Text) : ∃ front last, splitOn separator (before ++ piece) = front ++ [last] ∧
      piece <:+ last := by
  induction before with
  | nil => exact ⟨[], piece, splitOn_of_notMem whole, List.suffix_refl _⟩
  | cons c before ih =>
    obtain ⟨front, last, split, ends⟩ := ih
    simp only [splitOn] at split
    by_cases cut : c = separator
    · exact ⟨[] :: front, last, by simp [splitOn, splitWhere, cut, split], ends⟩
    · cases front with
      | nil =>
        exact ⟨[], c :: last, by simp [splitOn, splitWhere, cut, split],
          ends.trans (List.suffix_cons c last)⟩
      | cons first front =>
        exact ⟨(c :: first) :: front, last, by simp [splitOn, splitWhere, cut, split], ends⟩

/-- A text that is cut around a separator occurs across two neighbouring parts. -/
theorem exists_neighbours {separator : Char} {left right text : Text} (first : separator ∉ left)
    (second : separator ∉ right) (inside : left ++ separator :: right <:+: text) :
    ∃ before after, [before, after] <:+: splitOn separator text ∧ left <:+ before ∧
      right <+: after := by
  obtain ⟨front, back, rfl⟩ := inside
  obtain ⟨parts, before, early, ends⟩ := exists_last_piece first front
  obtain ⟨after, rest, late, begins⟩ := exists_first_piece second back
  refine ⟨before, after, ⟨parts, rest, ?_⟩, ends, begins⟩
  have split : front ++ (left ++ separator :: right) ++ back =
      (front ++ left) ++ separator :: (right ++ back) := by simp
  rw [split, splitOn_append_cons, early, late]
  simp

/-- Neighbours in a list are its first two members or neighbours behind the first. -/
theorem neighbours_cons {before after first second : Text} {rest : List Text} :
    [before, after] <:+: first :: second :: rest ↔
      (before = first ∧ after = second) ∨ [before, after] <:+: second :: rest := by
  rw [List.infix_cons_iff, List.cons_prefix_cons, List.cons_prefix_cons]
  simp

/-- There are no neighbours in a list of one. -/
theorem neighbours_singleton {before after only : Text} : ¬[before, after] <:+: [only] := by
  intro inside
  have length := inside.length_le
  simp at length

/-- A short end of a text is an end of its last part. -/
theorem suffix_of_append {ending front last : Text} (short : ending.length ≤ last.length)
    (ends : ending <:+ front ++ last) : ending <:+ last :=
  List.suffix_of_suffix_length_le ends (List.suffix_append front last) short

/-- A text has one literal at its front. -/
theorem eq_of_quote_prefix {text other after : Text}
    (begins : quote text <+: quote other ++ after) : text = other := by
  obtain ⟨rest, same⟩ := begins
  have read := Quoted.read?_quote_append text rest
  rw [same, Quoted.read?_quote_append] at read
  exact ((Prod.mk.inj (Option.some.inj read)).1).symm

/-- Two texts of which one ends with the other are the same if a character stands in front of both
that they do not hold. -/
theorem eq_of_suffix {c : Char} {text other front : Text} (first : c ∉ text) (second : c ∉ other)
    (ends : c :: text <:+ front ++ c :: other) : text = other := by
  have behind := List.suffix_append front (c :: other)
  rcases Nat.le_total (c :: text).length (c :: other).length with short | long
  · rcases List.suffix_cons_iff.mp (List.suffix_of_suffix_length_le ends behind short)
      with same | inside
    · exact (List.cons.inj same).2
    · exact absurd (inside.subset List.mem_cons_self) second
  · rcases List.suffix_cons_iff.mp (List.suffix_of_suffix_length_le behind ends long)
      with same | inside
    · exact (List.cons.inj same).2.symm
    · exact absurd (inside.subset List.mem_cons_self) first

/-- A literal of plain characters and points is the text between quotes. -/
theorem quote_eq {text : Text} (slash : '\\' ∉ text) (mark : '\'' ∉ text) :
    quote text = '\'' :: (text ++ ['\'']) := by
  have same : text.flatMap escapeChar = text := by
    induction text with
    | nil => rfl
    | cons c rest ih =>
      simp only [List.mem_cons, not_or] at slash mark
      simp [escapeChar, Ne.symm slash.1, Ne.symm mark.1, ih slash.2 mark.2]
  rw [quote, same]
  rfl

end Text

open Text

namespace Marker

/-- The marker of an entry begins with its word. -/
theorem entry_eq_word (key : Text) : entry key = start ++ ("entry" : Text) ++ ' ' :: key := by
  have word : ("entry " : Text) = ("entry" : Text) ++ [' '] := by decide
  rw [entry_eq, word]
  simp

/-- It does so when it is trimmed, and it is not trimmed away but for the blank in front of no
key. -/
theorem trim_entry_cases {key : Text} (solid : ∀ c ∈ key, isBlank c = false) :
    (key = [] ∧ trim (entry key) = start ++ ("entry" : Text)) ∨ trim (entry key) = entry key := by
  by_cases keyed : key = []
  · exact .inl ⟨keyed, by rw [keyed]; decide⟩
  · exact .inr (trim_entry keyed fun c last => solid c (List.mem_of_getLast? last))

/-- A marker of an entry tells its key, if this holds no blanks. -/
theorem key_of_trim {key other : Text} (solid : ∀ c ∈ key, isBlank c = false)
    (same : trim (entry key) = entry other) : key = other := by
  rcases trim_entry_cases solid with ⟨-, short⟩ | whole
  · rw [short, entry_eq_word, List.self_eq_append_right] at same
    exact absurd same (by simp)
  · rw [whole, entry_eq, entry_eq] at same
    exact List.append_cancel_left same

/-- What begins like the marker of an entry begins no region and ends none. -/
theorem ne_entry_word (name rest : Text) : beginning name ≠ start ++ ("entry" : Text) ++ rest ∧
    ending name ≠ start ++ ("entry" : Text) ++ rest := by
  have apart : ("begin " : Text).take 3 ≠ ("entry" : Text).take 3 ∧
      ("end " : Text).take 3 ≠ ("entry" : Text).take 3 := by decide
  have long : 3 ≤ ("begin " : Text).length ∧ 3 ≤ ("end " : Text).length ∧
      3 ≤ ("entry" : Text).length := by decide
  rw [beginning, ending]
  simp only [List.append_assoc, ne_eq]
  constructor
  · intro same
    have word := congrArg (List.take 3) (List.append_cancel_left same)
    rw [List.take_append_of_le_length long.1, List.take_append_of_le_length long.2.2] at word
    exact apart.1 word
  · intro same
    have word := congrArg (List.take 3) (List.append_cancel_left same)
    rw [List.take_append_of_le_length long.2.1, List.take_append_of_le_length long.2.2] at word
    exact apart.2 word

/-- A line that begins neither with a blank nor with a slash is no marker. -/
theorem trim_ne {c : Char} (solid : isBlank c = false) (other : c ≠ '/') {margin : Text}
    (blank : ∀ c ∈ margin, isBlank c = true) (line rest : Text) :
    trim (margin ++ c :: line) ≠ start ++ rest := by
  intro same
  have slash : start.head? = some '/' := by decide
  rw [trim_append_left blank] at same
  have first := head?_trim solid line
  rw [same, List.head?_append, slash, Option.some_or, Option.some.injEq] at first
  exact other first.symm

/-- The marker of an entry ends no region. -/
theorem trim_entry_ne_ending {key : Text} (solid : ∀ c ∈ key, isBlank c = false) (name : Text) :
    trim (entry key) ≠ ending name := by
  rcases trim_entry_cases solid with ⟨-, short⟩ | whole
  · rw [short, ← List.append_nil (start ++ ("entry" : Text))]
    exact (ne_entry_word name []).2.symm
  · rw [whole, entry_eq_word]
    exact (ne_entry_word name _).2.symm

/-- There is no quote in a marker of anything without quotes. -/
theorem quote_notMem {name : Text} (quoteless : '\'' ∉ name) :
    '\'' ∉ beginning name ∧ '\'' ∉ ending name ∧ '\'' ∉ entry name := by
  have words : '\'' ∉ start ++ ("begin " : Text) ∧ '\'' ∉ start ++ ("end " : Text) ∧
      '\'' ∉ start ++ ("entry " : Text) := by decide
  refine ⟨?_, ?_, ?_⟩ <;> intro inside <;> rcases List.mem_append.mp inside with early | late
  · exact words.1 early
  · exact quoteless late
  · exact words.2.1 early
  · exact quoteless late
  · exact words.2.2 early
  · exact quoteless late

end Marker

namespace Entry

/-- In one line an entry is recognised if the line is its marker or holds its presence. -/
theorem recognisedIn_line {entry : Entry} {line : Text} (single : '\n' ∉ line) :
    entry.recognisedIn line =
      (trim line == Marker.entry entry.key || entry.presence.foundIn line) := by
  rw [recognisedIn, any_lines_eq_any_rows, rows_of_notMem single]
  simp

/-- An entry whose key holds neither blanks nor quotes, which is recognised by a text with a quote,
and whose lines are not empty and begin like no marker. -/
structure Plain (entry : Entry) : Prop where
  /-- The key holds neither blanks nor quotes. -/
  key : ∀ c ∈ entry.key, isBlank c = false ∧ c ≠ '\''
  /-- There is a quote in the text by which the entry is recognised. -/
  presence : ∃ text, entry.presence = .occurs text ∧ '\'' ∈ text
  /-- The lines do not begin with a blank or a slash. -/
  lines : ∀ line ∈ entry.lines, ∃ c rest, line = c :: rest ∧ isBlank c = false ∧ c ≠ '/'

variable {entry : Entry} {margin line : Text}

/-- The lines of a plain entry stand behind the margin. -/
theorem Plain.mem_linesAt (plain : entry.Plain) : line ∈ entry.linesAt margin ↔
    line = margin ++ Marker.entry entry.key ∨ ∃ own ∈ entry.lines, line = margin ++ own := by
  have filled : ∀ own ∈ Marker.entry entry.key :: entry.lines, own.isEmpty = false := by
    intro own member
    rcases List.mem_cons.mp member with rfl | member
    · simpa using Marker.entry_ne_nil entry.key
    · obtain ⟨c, rest, rfl, -⟩ := plain.lines own member
      rfl
  have same : entry.linesAt margin =
      (Marker.entry entry.key :: entry.lines).map fun own => margin ++ own :=
    List.map_congr_left fun own member => by simp [filled own member]
  rw [same, List.map_cons, List.mem_cons, List.mem_map]
  simp only [eq_comm]

/-- None of the lines of a plain entry is a marker. -/
theorem Plain.trim_ne (plain : entry.Plain) (blank : ∀ c ∈ margin, isBlank c = true)
    (member : line ∈ entry.lines) (rest : Text) : trim (margin ++ line) ≠ Marker.start ++ rest := by
  obtain ⟨c, more, rfl, solid, other⟩ := plain.lines line member
  exact Marker.trim_ne solid other blank more rest

end Entry

namespace Registration

variable {name : Text} {anchor : Anchor} {registrations : List Registration}

/-- Registrations of plain entries are a family if the lines of an entry hold the presence of those
with its key and of no others. -/
theorem family_of (tidy : SharedFile.Tidy name) (quoteless : '\'' ∉ name)
    (uniform : ∀ registration ∈ registrations,
      registration.region = name ∧ registration.anchor = anchor)
    (lined : ∀ registration ∈ registrations, registration.Lined)
    (presence : ∀ registration ∈ registrations, IsOneLine registration.entry.presence.text)
    (plain : ∀ registration ∈ registrations, registration.entry.Plain)
    (told : ∀ registration ∈ registrations, ∀ other ∈ registrations, ∀ margin : Text,
      (∀ c ∈ margin, c = ' ' ∨ c = '\t') →
        ((∃ line ∈ other.entry.lines, registration.entry.presence.text <:+: margin ++ line) ↔
          registration.entry.key = other.entry.key)) : Family name anchor registrations where
  tidy := tidy
  uniform := uniform
  lined := lined
  presence := presence
  inner := by
    intro registration member margin margins line listed same
    have blank := SharedFile.isBlank_of_space_or_tab margins
    rcases (plain registration member).mem_linesAt.mp listed with rfl | ⟨own, inside, rfl⟩
    · rw [trim_append_left blank] at same
      exact Marker.trim_entry_ne_ending (fun c here => ((plain registration member).key c here).1)
        name same
    · rw [Marker.ending, List.append_assoc] at same
      exact (plain registration member).trim_ne blank inside _ same
  own := by
    intro registration member other listed same margin margins
    obtain ⟨line, inside, found⟩ := (told registration member other listed margin margins).mpr same
    refine ⟨margin ++ line, (plain other listed).mem_linesAt.mpr (.inr ⟨line, inside, rfl⟩), ?_⟩
    obtain ⟨text, known, -⟩ := (plain registration member).presence
    rw [known] at found
    rw [Entry.recognisedIn, known, Bool.or_eq_true]
    exact .inr (occursIn_iff.mpr found)
  apart := by
    intro registration member other listed different margin margins line added
    have blank := SharedFile.isBlank_of_space_or_tab margins
    obtain ⟨text, known, quoted⟩ := (plain registration member).presence
    obtain ⟨region, -⟩ := uniform other listed
    -- A line without the quote does not hold the presence.
    have absent : ∀ {rest : Text}, '\'' ∉ rest →
        registration.entry.presence.foundIn (margin ++ rest) = false := by
      intro rest none
      rw [known, Bool.eq_false_iff]
      intro found
      rcases List.mem_append.mp ((occursIn_iff.mp found).subset quoted) with side | inside
      · exact absurd (blank _ side) (by decide)
      · exact none inside
    have single := SharedFile.feed_notMem_newRegion (lined other listed) margins added
    rw [Entry.recognisedIn_line single, Bool.or_eq_false_iff, beq_eq_false_iff_ne]
    rw [SharedFile.newRegion, region] at added
    rcases List.mem_append.mp added with early | last
    · rcases List.mem_cons.mp early with rfl | inner
      · refine ⟨?_, absent (Marker.quote_notMem quoteless).1⟩
        rw [trim_append_left blank, tidy.1, Marker.entry_eq_word]
        exact (Marker.ne_entry_word name _).1
      · rcases (plain other listed).mem_linesAt.mp inner with rfl | ⟨own, inside, rfl⟩
        · refine ⟨fun same => ?_, absent (Marker.quote_notMem ?_).2.2⟩
          · rw [trim_append_left blank] at same
            exact different (Marker.key_of_trim
              (fun c here => ((plain other listed).key c here).1) same).symm
          · exact fun here => ((plain other listed).key _ here).2 rfl
        · refine ⟨?_, ?_⟩
          · rw [Marker.entry, List.append_assoc]
            exact (plain other listed).trim_ne blank inside _
          · rw [Bool.eq_false_iff]
            intro found
            rw [known] at found
            refine different ((told registration member other listed margin margins).mp
              ⟨own, inside, ?_⟩)
            rw [known]
            exact occursIn_iff.mp found
    · rw [List.mem_singleton.mp last]
      refine ⟨?_, absent (Marker.quote_notMem quoteless).2.1⟩
      rw [trim_append_left blank, tidy.2, Marker.entry_eq_word]
      exact (Marker.ne_entry_word name _).2

end Registration

end Scaffold
