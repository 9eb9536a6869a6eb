import Scaffold.Proofs.Text.Occurrence
import Scaffold.Proofs.Text.Trim
import Scaffold.Registry

/-!
# Inserting an entry

What `SharedFile.insert` can do, as one inversion (`insert_cases`), and when an entry is recognised:
recognition looks at the joined lines row by row (`rowWise_recognises`), so it lasts
(`lasting_recognises`) where lines are put between others or the file is saved and reloaded
(`lasting_insertLines`, `lasting_reload`). An entry is recognised by its marker once its lines are in
the file (`contains_of_linesAt`).
-/
namespace Scaffold

/-- Whether two answers are the same can be computed. -/
instance decidableEqAnswer {ε α : Type} [DecidableEq ε] [DecidableEq α] :
    DecidableEq (Except ε α)
  | .ok a, .ok b => decidable_of_iff (a = b) (by simp)
  | .error a, .error b => decidable_of_iff (a = b) (by simp)
  | .ok _, .error _ => .isFalse (by simp)
  | .error _, .ok _ => .isFalse (by simp)

/-- An entry that its marker identifies: the key is not empty, does not end with a blank and is one
line, and the text of its presence is one line. -/
structure Entry.Proper (entry : Entry) : Prop where
  /-- There is a key. -/
  keyed : entry.key ≠ []
  /-- No blank ends the key. -/
  tight : ∀ c, entry.key.getLast? = some c → Text.isBlank c = false
  /-- The key is one line. -/
  keyLine : Text.IsOneLine entry.key
  /-- The text of the presence is one line. -/
  presenceLine : Text.IsOneLine entry.presence.text

namespace Marker

/-- What stands before a key in the marker of its entry. -/
theorem entry_eq (key : Text) : entry key = start ++ ("entry " : Text) ++ key := by
  simp [entry]

/-- A marker is not empty. -/
theorem entry_ne_nil (key : Text) : entry key ≠ [] := by
  have filled : start ≠ [] := by decide
  intro empty
  rw [entry_eq, List.append_assoc] at empty
  exact filled (List.append_eq_nil_iff.mp empty).1

/-- The marker of a proper key is one line. -/
theorem isOneLine_entry {key : Text} (line : Text.IsOneLine key) : Text.IsOneLine (entry key) := by
  have before : Text.IsOneLine (start ++ ("entry " : Text)) := by
    constructor <;> decide
  rw [entry_eq]
  exact ⟨fun inside => (List.mem_append.mp inside).elim before.1 line.1,
    fun inside => (List.mem_append.mp inside).elim before.2 line.2⟩

/-- The marker of a proper key has no blanks at its ends. -/
theorem trim_entry {key : Text} (keyed : key ≠ [])
    (tight : ∀ c, key.getLast? = some c → Text.isBlank c = false) :
    Text.trim (entry key) = entry key := by
  apply Text.trim_eq_self
  · have slash : start.head? = some '/' := by decide
    intro c first
    rw [entry_eq, List.append_assoc, List.head?_append, slash, Option.some_or,
      Option.some.injEq] at first
    rw [← first]
    decide
  · intro c last
    rw [entry_eq, List.getLast?_append, List.getLast?_eq_some_getLast keyed, Option.some_or] at last
    exact tight c (by rw [List.getLast?_eq_some_getLast keyed, last])

end Marker

namespace Entry

/-- The entry is recognised in a text: its marker is a line, or its presence is found. -/
def recognisedIn (entry : Entry) (text : Text) : Bool :=
  (Text.lines text).any (fun line => Text.trim line == Marker.entry entry.key) ||
    entry.presence.foundIn text

/-- Rows are as good as lines for finding a marker. -/
theorem any_lines_eq_any_rows (key text : Text) :
    (Text.lines text).any (fun line => Text.trim line == Marker.entry key) =
      (Text.rows text).any (fun row => Text.trim row == Marker.entry key) := by
  rw [Bool.eq_iff_iff, List.any_eq_true, List.any_eq_true]
  simp only [beq_iff_eq]
  constructor
  · rintro ⟨line, member, same⟩
    rw [Text.lines_eq_rows] at member
    rcases Text.mem_of_mem_linesOfRows member with row | longer
    · exact ⟨line, row, same⟩
    · exact ⟨_, longer, by rw [Text.trim_append_singleton Text.isBlank_return, same]⟩
  · rintro ⟨row, member, same⟩
    have lines := Text.mem_linesOfRows member
    rw [← Text.lines_eq_rows] at lines
    rcases lines with rfl | line | shorter
    · exact absurd same.symm (Marker.entry_ne_nil key)
    · exact ⟨row, line, same⟩
    · refine ⟨_, shorter, ?_⟩
      rcases Text.withoutReturn_cases row with whole | cut
      · rw [← whole, same]
      · rw [cut, Text.trim_append_singleton Text.isBlank_return] at same
        exact same

/-- A marker is found row by row. -/
theorem rowWise_marker (key : Text) :
    Text.RowWise fun text =>
      (Text.lines text).any fun line => Text.trim line == Marker.entry key := by
  simp only [any_lines_eq_any_rows]
  constructor
  · intro before after
    rw [Text.rows_append_cons, List.any_append]
  · intro row single found
    have longer : '\n' ∉ row ++ ['\x0d'] := by simpa using single
    simp only [Text.rows_of_notMem longer, List.any_cons, List.any_nil, Bool.or_false,
      Text.trim_append_singleton Text.isBlank_return] at found
    simpa [Text.rows_of_notMem single] using found
  · intro found
    have same : Text.trim [] = Marker.entry key := by simpa using found
    exact absurd same.symm (Marker.entry_ne_nil key)

/-- A presence of one line is found row by row. -/
theorem rowWise_presence {presence : Presence} (line : Text.IsOneLine presence.text) :
    Text.RowWise fun text => presence.foundIn text := by
  cases presence with
  | occurs piece => exact Text.rowWise_occursIn line
  | word word => exact Text.rowWise_wordOccursIn line

/-- An entry whose presence is one line is recognised row by row. -/
theorem rowWise_recognises {entry : Entry} (line : Text.IsOneLine entry.presence.text) :
    Text.RowWise entry.recognisedIn :=
  (rowWise_marker entry.key).or (rowWise_presence line)

/-- The lines of an entry at a margin are not none. -/
theorem linesAt_eq_cons (entry : Entry) (margin : Text) :
    ∃ rest, entry.linesAt margin = (margin ++ Marker.entry entry.key) :: rest := by
  have filled : (Marker.entry entry.key).isEmpty = false := by
    simpa using Marker.entry_ne_nil entry.key
  rw [linesAt, List.map_cons, filled]
  exact ⟨_, rfl⟩

end Entry

namespace SharedFile

/-- Looking for an entry is recognising it in the joined lines. -/
theorem contains_eq (file : SharedFile) (entry : Entry) :
    file.contains entry = entry.recognisedIn file.joined := rfl

/-- The file with the lines that are read from its saved content. -/
def reload (file : SharedFile) : SharedFile := ofText file.toText

/-- Every way in which an insertion can be answered, with what it did to the file. -/
theorem insert_cases {file changed : SharedFile} {registration : Registration}
    {answer : Insertion} (done : file.insert registration = .ok (answer, changed)) :
    (answer = .alreadyPresent ∧ changed = file ∧ file.contains registration.entry = true) ∨
    (answer = .anchorNotFound ∧ changed = file ∧ file.contains registration.entry = false ∧
      file.region? registration.region = none ∧
      registration.anchor.locate file.toText = .ok none) ∨
    (answer = .inserted ∧ file.contains registration.entry = false ∧
      ∃ region, file.region? registration.region = some region ∧
        changed = file.insertLines region.last (registration.entry.linesAt region.margin)) ∨
    (answer = .inserted ∧ file.contains registration.entry = false ∧
      file.region? registration.region = none ∧
      ∃ site, registration.anchor.locate file.toText = .ok (some site) ∧
        changed = file.insertLines site.line (newRegion registration site.margin)) := by
  unfold insert at done
  split at done
  · rename_i present
    simp only [Except.ok.injEq, Prod.mk.injEq] at done
    obtain ⟨rfl, rfl⟩ := done
    exact .inl ⟨rfl, rfl, present⟩
  · rename_i absent
    have absent : file.contains registration.entry = false := by simpa using absent
    split at done
    · rename_i region found
      simp only [Except.ok.injEq, Prod.mk.injEq] at done
      obtain ⟨rfl, rfl⟩ := done
      exact .inr (.inr (.inl ⟨rfl, absent, region, found, rfl⟩))
    · rename_i missing
      split at done
      · simp at done
      · rename_i nowhere
        simp only [Except.ok.injEq, Prod.mk.injEq] at done
        obtain ⟨rfl, rfl⟩ := done
        exact .inr (.inl ⟨rfl, rfl, absent, missing, nowhere⟩)
      · rename_i site somewhere
        simp only [Except.ok.injEq, Prod.mk.injEq] at done
        obtain ⟨rfl, rfl⟩ := done
        exact .inr (.inr (.inr ⟨rfl, absent, missing, site, somewhere, rfl⟩))

/-- An entry that is recognised is left alone. -/
theorem insert_of_contains {file : SharedFile} {registration : Registration}
    (present : file.contains registration.entry = true) :
    file.insert registration = .ok (.alreadyPresent, file) := by
  simp [insert, present]

/-- The margin of a region is made of blanks. -/
theorem isBlank_of_mem_region {file : SharedFile} {name : Text} {region : Region}
    (found : file.region? name = some region) : ∀ c ∈ region.margin, Text.isBlank c = true := by
  unfold region? at found
  cases begins : indexOf? file.lines (Marker.beginning name) with
  | none => simp [begins] at found
  | some first =>
    cases ends : indexOf? (file.lines.drop first) (Marker.ending name) with
    | none => simp [begins, ends] at found
    | some length =>
      simp only [begins, ends, bind, Option.bind, Option.some.injEq] at found
      subst found
      exact fun c inside => List.all_eq_true.mp (List.all_takeWhile) c inside

/-- The margin at a site is made of spaces and tabs. -/
theorem space_or_tab_of_mem_site {anchor : Anchor} {content : Text} {site : Site}
    (found : anchor.locate content = .ok (some site)) :
    ∀ c ∈ site.margin, c = ' ' ∨ c = '\t' := by
  unfold Anchor.locate at found
  split at found
  · simp at found
  · split at found
    · simp at found
    · rename_i pattern _ place _
      unfold Anchor.siteAt at found
      cases cut : Anchor.textBefore anchor.placement place with
      | error fault => simp [cut, bind, Except.bind, Except.map] at found
      | ok before =>
        simp only [cut, bind, Except.bind, Except.map, pure, Except.pure, Except.ok.injEq,
          Option.some.injEq] at found
        subst found
        intro c inside
        rcases List.mem_append.mp inside with margin | deeper
        · have isMargin := List.all_eq_true.mp List.all_takeWhile c margin
          simpa [Anchor.isMargin] using isMargin
        · split at deeper
          · have isStep : c ∈ [' ', ' ', ' ', ' '] := deeper
            exact .inl (by simpa using isStep)
          · simp at deeper

/-- The margin at a site is made of blanks. -/
theorem isBlank_of_mem_site {anchor : Anchor} {content : Text} {site : Site}
    (found : anchor.locate content = .ok (some site)) :
    ∀ c ∈ site.margin, Text.isBlank c = true := by
  intro c inside
  rcases space_or_tab_of_mem_site found c inside with rfl | rfl <;> decide

/-- Lines put in at a place leave what lasts. -/
theorem lasting_insertLines {holds : Text → Prop} (lasting : Text.Lasting holds)
    {file : SharedFile} (here : holds file.joined) (index : Nat) (added : List Text) :
    holds (file.insertLines index added).joined := by
  have carried := Text.carried_insert (file.lines.take index) added (file.lines.drop index)
  rw [List.take_append_drop] at carried
  exact lasting carried here

/-- What lasts is in the saved content. -/
theorem lasting_toText {holds : Text → Prop} (lasting : Text.Lasting holds) {file : SharedFile}
    (here : holds file.joined) : holds file.toText := by
  unfold toText
  split
  · exact lasting (Text.carried_append_feed file.joined []) here
  · rwa [List.append_nil]

/-- Saving and reloading leaves what lasts. -/
theorem lasting_reload {holds : Text → Prop} (lasting : Text.Lasting holds) {file : SharedFile}
    (here : holds file.joined) : holds file.reload.joined :=
  lasting (Text.carried_lines file.toText) (lasting_toText lasting here)

/-- That an entry whose presence is one line is recognised lasts. -/
theorem lasting_recognises {entry : Entry} (line : Text.IsOneLine entry.presence.text) :
    Text.Lasting fun text => entry.recognisedIn text = true :=
  (Entry.rowWise_recognises line).of_carried

/-- Saving and reloading leaves what is recognised recognised. -/
theorem contains_reload {file : SharedFile} {entry : Entry}
    (line : Text.IsOneLine entry.presence.text) (present : file.contains entry = true) :
    file.reload.contains entry = true :=
  lasting_reload (lasting_recognises line) present

/-- An entry whose lines are in a file, behind blanks, is recognised by its marker. -/
theorem contains_of_linesAt {file : SharedFile} {entry : Entry} (keyed : entry.key ≠ [])
    (tight : ∀ c, entry.key.getLast? = some c → Text.isBlank c = false)
    (keyLine : Text.IsOneLine entry.key) {margin : Text}
    (blank : ∀ c ∈ margin, Text.isBlank c = true)
    (placed : ∀ line ∈ entry.linesAt margin, line ∈ file.lines) :
    file.contains entry = true := by
  obtain ⟨rest, lines⟩ := entry.linesAt_eq_cons margin
  have here : margin ++ Marker.entry entry.key ∈ file.lines :=
    placed _ (by rw [lines]; exact List.mem_cons_self)
  have own : ∃ row ∈ Text.rows (Marker.entry entry.key), Text.trim row = Marker.entry entry.key :=
    ⟨_, by rw [Text.rows_of_notMem (Marker.isOneLine_entry keyLine).1]; exact List.mem_cons_self,
      Marker.trim_entry keyed tight⟩
  obtain ⟨row, member, same⟩ := Text.exists_row_append_left blank own
  have inFile : row ∈ Text.rows file.joined := by
    rw [joined, Text.rows_unlines (List.ne_nil_of_mem here)]
    exact List.mem_flatMap.mpr ⟨_, here, member⟩
  rw [contains_eq, Entry.recognisedIn, Entry.any_lines_eq_any_rows, Bool.or_eq_true]
  exact .inl (List.any_eq_true.mpr ⟨row, inFile, by simp [same]⟩)

end SharedFile

/-- An entry is recognised by its lines, wherever and behind whatever blanks they stand. -/
def Entry.Evident (entry : Entry) : Prop :=
  ∀ {file : SharedFile} {margin : Text}, (∀ c ∈ margin, Text.isBlank c = true) →
    (∀ line ∈ entry.linesAt margin, line ∈ file.lines) → file.contains entry = true

/-- A proper entry is recognised by its marker. -/
theorem Entry.Proper.evident {entry : Entry} (proper : entry.Proper) : entry.Evident :=
  SharedFile.contains_of_linesAt proper.keyed proper.tight proper.keyLine

end Scaffold
