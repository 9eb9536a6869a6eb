import Scaffold.Proofs.Registry.Repetition

/-!
# One reading for several insertions

A file is stable if its lines are lines and an empty one at its end has ended (`Stable`). Saving and
reading gives a stable file back (`Stable.reload_eq`), a text without carriage returns is read as one
(`stable_ofText`), and insertions of lines keep a file stable (`Stable.insertAll`). So inserting
several entries into a file that was read once is as good as reading it anew for each of them
(`insertEach_eq`).
-/
namespace Scaffold

/-- The region, the key and the lines of a registration are one line each. -/
structure Registration.Lined (registration : Registration) : Prop where
  /-- The name of the region is one line. -/
  region : Text.IsOneLine registration.region
  /-- The key is one line. -/
  key : Text.IsOneLine registration.entry.key
  /-- Every line is one. -/
  lines : ∀ line ∈ registration.entry.lines, Text.IsOneLine line

/-- A character that ends no line. -/
def isInLine (c : Char) : Prop := c ≠ '\n' ∧ c ≠ '\x0d'

/-- The characters of one line end none. -/
theorem Text.IsOneLine.isInLine {line : Text} (single : Text.IsOneLine line) :
    ∀ c ∈ line, isInLine c := by
  intro c inside
  constructor <;> rintro rfl
  · exact single.1 inside
  · exact single.2 inside

/-- A registration of lines adds no characters that end a line. -/
theorem Registration.Lined.legal {registration : Registration} (lined : registration.Lined) :
    registration.Legal isInLine := by
  have words : Text.IsOneLine Marker.start ∧ Text.IsOneLine ("begin " : Text) ∧
      Text.IsOneLine ("end " : Text) ∧ Text.IsOneLine ("entry " : Text) := by
    refine ⟨?_, ?_, ?_, ?_⟩ <;> constructor <;> decide
  have marker : ∀ {word name : Text}, Text.IsOneLine word → Text.IsOneLine name →
      ∀ c ∈ Marker.start ++ word ++ name, isInLine c := by
    intro word name first second c inside
    rcases List.mem_append.mp inside with early | late
    · rcases List.mem_append.mp early with start | middle
      · exact words.1.isInLine c start
      · exact first.isInLine c middle
    · exact second.isInLine c late
  have beginning := marker words.2.1 lined.region
  have ending := marker words.2.2.1 lined.region
  have entry := marker words.2.2.2 lined.key
  intro line member
  unfold SharedFile.newRegion at member
  simp only [List.nil_append, List.cons_append, List.mem_cons, List.mem_append, List.not_mem_nil,
    or_false] at member
  rcases member with rfl | inner | rfl
  · simpa [Marker.beginning] using beginning
  · unfold Entry.linesAt at inner
    obtain ⟨piece, listed, rfl⟩ := List.mem_map.mp inner
    split
    · simp
    · rw [List.nil_append]
      rcases List.mem_cons.mp listed with rfl | own
      · simpa [Marker.entry] using entry
      · exact (lined.lines piece own).isInLine
  · simpa [Marker.ending] using ending

namespace SharedFile

variable {file changed : SharedFile} {registration : Registration} {answer : Insertion}

/-- A file that saving and reading gives back. -/
structure Stable (file : SharedFile) : Prop where
  /-- There are lines. -/
  filled : file.lines ≠ []
  /-- They hold no ends of lines. -/
  lined : file.Legal isInLine
  /-- An empty line at the end has ended. -/
  ended : file.lines.getLast? = some [] → file.ended = true

/-- A text that is not empty ends with a line feed exactly if its last row is empty. -/
theorem ended_ofText {text : Text} (filled : text ≠ []) :
    (ofText text).ended = true ↔ (Text.rows text).getLast? = some [] := by
  have empty : text.isEmpty = false := by simpa using filled
  rw [ofText, empty, Bool.false_or, beq_iff_eq]
  exact Text.getLast?_eq_feed_iff filled

/-- The rows of a stable file are its lines, and an empty one if the last line has ended. -/
theorem Stable.rows_toText (stable : file.Stable) :
    Text.rows file.toText = file.lines ++ (if file.ended then [[]] else []) := by
  have single : file.lines.flatMap Text.rows = file.lines :=
    flatMap_rows_of_notMem fun line member inside => (stable.lined line member _ inside).1 rfl
  rw [SharedFile.rows_toText stable.filled, single]

/-- A stable file is saved as a text without carriage returns. -/
theorem Stable.noReturn (stable : file.Stable) : '\x0d' ∉ file.toText := by
  have legal : file.Legal (· ≠ '\x0d') := fun line member c inside =>
    (stable.lined line member c inside).2
  exact fun inside => legal_toText (by decide) legal _ inside rfl

/-- A stable file is saved as a text that is not empty. -/
theorem Stable.toText_ne_nil (stable : file.Stable) : file.toText ≠ [] := by
  intro empty
  have rows := stable.rows_toText
  rw [empty, Text.rows_nil] at rows
  cases ended : file.ended with
  | true =>
    rw [ended, if_pos rfl] at rows
    have none : [] = file.lines := (@List.append_inj' Text [] _ _ _ rows rfl).1
    exact stable.filled none.symm
  | false =>
    rw [ended, if_neg Bool.false_ne_true, List.append_nil] at rows
    have lost := stable.ended (by rw [← rows]; rfl)
    rw [ended] at lost
    exact absurd lost (by simp)

/-- **Saving and reading gives a stable file back.** -/
theorem Stable.reload_eq (stable : file.Stable) : file.reload = file := by
  have filled := stable.toText_ne_nil
  have clean : ¬Text.returnFeed <:+: file.toText := fun inside =>
    stable.noReturn (inside.subset (by simp [Text.returnFeed]))
  have lines := lines_ofText filled
  rw [savedRows_rows_iff.mpr clean, stable.rows_toText] at lines
  have ended : (ofText file.toText).ended = file.ended := by
    rw [Bool.eq_iff_iff, ended_ofText filled, stable.rows_toText]
    constructor
    · intro last
      by_cases done : file.ended = true
      · exact done
      · rw [if_neg done, List.append_nil] at last
        exact stable.ended last
    · intro done
      simp [done]
  rw [ended] at lines
  have same : (ofText file.toText).lines = file.lines := List.append_cancel_right lines
  show ofText file.toText = file
  cases file
  cases found : ofText (SharedFile.toText _)
  simp_all

/-- A text without carriage returns is read as a stable file. -/
theorem stable_ofText {text : Text} (filled : text ≠ []) (clean : '\x0d' ∉ text) :
    (ofText text).Stable := by
  have noReturn : (ofText text).Legal (· ≠ '\x0d') := legal_ofText fun c inside same =>
    clean (same ▸ inside)
  refine ⟨lines_ne_nil filled, fun line member c inside => ⟨?_, noReturn line member c inside⟩, ?_⟩
  · rintro rfl
    exact Text.feed_notMem_of_mem_lines member inside
  · intro last
    refine Classical.byContradiction fun open_ => ?_
    have lines := lines_ofText filled
    have saved : ¬Text.returnFeed <:+: text := fun inside =>
      clean (inside.subset (by simp [Text.returnFeed]))
    rw [if_neg open_, List.append_nil, savedRows_rows_iff.mpr saved] at lines
    rw [lines, ← ended_ofText filled] at last
    exact open_ last

/-- A text without carriage returns is saved as it was read. -/
theorem saved_of_clean {text : Text} (filled : text ≠ []) (clean : '\x0d' ∉ text) :
    (ofText text).toText = text :=
  toText_ofText_iff.mpr ⟨filled, fun inside =>
    clean (inside.subset (by simp [Text.returnFeed]))⟩

/-- The last line of a region is one of the file. -/
theorem last_lt_of_region {name : Text} {region : Region}
    (found : file.region? name = some region) : region.last < file.lines.length := by
  unfold region? at found
  cases begins : indexOf? file.lines (Marker.beginning name) with
  | none => simp [begins] at found
  | some first =>
    cases ends : indexOf? (file.lines.drop first) (Marker.ending name) with
    | none => simp [begins, ends] at found
    | some length =>
      simp only [begins, ends, bind, Option.bind, Option.some.injEq] at found
      subst found
      obtain ⟨low, -, -⟩ := List.findIdx?_eq_some_iff_getElem.mp ends
      rw [List.length_drop] at low
      show first + length < file.lines.length
      omega

/-- Lines put in keep an empty line at the end ended, unless they are the last ones. -/
theorem ended_insertLines (ended : file.lines.getLast? = some [] → file.ended = true) {index : Nat}
    {lines : List Text} (behind : file.lines.drop index = [] → lines.getLast?.any (· ≠ []) = true)
    (last : (file.insertLines index lines).lines.getLast? = some []) :
    (file.insertLines index lines).ended = true := by
  show file.ended = true
  unfold insertLines at last
  rw [List.getLast?_append] at last
  cases rest : (file.lines.drop index).getLast? with
  | some line =>
    rw [rest, Option.some_or] at last
    refine ended ?_
    rw [← List.take_append_drop index file.lines, List.getLast?_append, rest, Option.some_or, last]
  | none =>
    have filled := behind (List.getLast?_eq_none_iff.mp rest)
    rw [rest, Option.none_or, List.getLast?_append] at last
    obtain ⟨line, own, other⟩ := (Option.any_eq_true _ _).mp filled
    rw [own, Option.some_or, Option.some.injEq] at last
    simp [last] at other

/-- **An insertion of lines keeps a file stable.** -/
theorem Stable.insert (stable : file.Stable) (lined : registration.Lined)
    (done : file.insert registration = .ok (answer, changed)) : changed.Stable := by
  have filled : changed.lines ≠ [] := fun none =>
    stable.filled (List.sublist_nil.mp (none ▸ sublist_insert done))
  have legal : changed.Legal isInLine := legal_insert (by unfold isInLine; decide)
    (by unfold isInLine; decide) lined.legal stable.lined done
  refine ⟨filled, legal, ?_⟩
  rcases insert_cases done with ⟨-, rfl, -⟩ | ⟨-, rfl, -⟩ | ⟨-, -, region, found, rfl⟩ |
    ⟨-, -, -, site, -, rfl⟩
  · exact stable.ended
  · exact stable.ended
  · refine ended_insertLines stable.ended fun none => ?_
    have low := last_lt_of_region found
    rw [List.drop_eq_nil_iff] at none
    omega
  · refine ended_insertLines stable.ended fun _ => ?_
    have marker : Marker.ending registration.region ≠ [] := by
      have start : Marker.start ≠ [] := by decide
      simp [Marker.ending, start]
    rw [newRegion, List.getLast?_concat]
    simp [marker]

end SharedFile

namespace Project

open SharedFile

variable {path : FilePath} {file updated : SharedFile} {registrations : List Registration}
  {reports : List EntryReport}

/-- Insertions of lines keep a file stable. -/
theorem stable_insertAll (stable : file.Stable)
    (lined : ∀ registration ∈ registrations, registration.Lined)
    (done : insertAll path file registrations = .ok (updated, reports)) : updated.Stable := by
  induction registrations generalizing file reports with
  | nil =>
    obtain ⟨rfl, -⟩ := insertAll_nil_ok.mp done
    exact stable
  | cons registration rest ih =>
    obtain ⟨answer, changed, later, first, others, -⟩ := insertAll_cons_ok.mp done
    exact ih (stable.insert (lined registration List.mem_cons_self) first)
      (fun other member => lined other (List.mem_cons_of_mem _ member)) others

/-- Adds entries to the text of a file, which is read and saved anew for each of them. -/
def insertEach (path : FilePath) (text : Text) :
    List Registration → Except Failure (Text × List EntryReport)
  | [] => .ok (text, [])
  | registration :: rest =>
    match (ofText text).insert registration with
    | .error fault => .error (.anchor fault)
    | .ok (insertion, file) =>
      match insertEach path file.toText rest with
      | .error failure => .error failure
      | .ok (text, reports) =>
        .ok (text, ⟨path, registration.entry.key, resultOf insertion⟩ :: reports)

/-- **One reading is as good as one for each entry.** -/
theorem insertEach_toText (stable : file.Stable)
    (lined : ∀ registration ∈ registrations, registration.Lined) :
    insertEach path file.toText registrations =
      (insertAll path file registrations).map fun (updated, reports) =>
        (updated.toText, reports) := by
  induction registrations generalizing file with
  | nil => rfl
  | cons registration rest ih =>
    have same : ofText file.toText = file := stable.reload_eq
    rw [insertEach, insertAll, same]
    cases done : file.insert registration with
    | error fault => rfl
    | ok result =>
      obtain ⟨answer, changed⟩ := result
      have later := ih (stable.insert (lined registration List.mem_cons_self) done)
        fun other member => lined other (List.mem_cons_of_mem _ member)
      simp only [later]
      cases insertAll path changed rest with
      | error failure => rfl
      | ok more => rfl

end Project

end Scaffold
