import Scaffold.Proofs.Project.Preservation
import Scaffold.Proofs.Registry.Regions

/-!
# Inserting once more after saving

A text is at rest for registrations if it is saved as it was read and none of them would be
inserted (`AtRest`). A text without carriage returns is at rest for the entries of one region after
their insertion (`atRest_insertAll`). The characters that insertions bring are those of the entries,
of the file's own margins, blanks and tabs (`legal_insertAll`).
-/
namespace Scaffold

/-- The lines that a registration adds are made of certain characters, but for their margin. -/
def Registration.Legal (legal : Char → Prop) (registration : Registration) : Prop :=
  ∀ line ∈ SharedFile.newRegion registration [], ∀ c ∈ line, legal c

namespace SharedFile

variable {file changed : SharedFile} {registration : Registration} {answer : Insertion}
  {legal : Char → Prop}

/-- The lines of a file are made of certain characters. -/
def Legal (legal : Char → Prop) (file : SharedFile) : Prop := ∀ line ∈ file.lines, ∀ c ∈ line, legal c

/-- A line of a new region has the characters of its margin and those that the registration
brings. -/
theorem legal_newRegion (own : registration.Legal legal) {margin : Text}
    (side : ∀ c ∈ margin, legal c) : ∀ line ∈ newRegion registration margin, ∀ c ∈ line, legal c := by
  have behind : ∀ {line : Text}, (∀ c ∈ line, legal c) → ∀ c ∈ margin ++ line, legal c :=
    fun rest c inside => (List.mem_append.mp inside).elim (side c) (rest c)
  intro line member
  unfold newRegion at member
  rcases List.mem_append.mp member with early | last
  · rcases List.mem_cons.mp early with rfl | inner
    · exact behind (own _ (by simp [newRegion]))
    · unfold Entry.linesAt at inner
      obtain ⟨piece, listed, rfl⟩ := List.mem_map.mp inner
      split
      · simp
      · rename_i filled
        refine behind (own piece ?_)
        have inside : piece ∈ registration.entry.linesAt [] := by
          unfold Entry.linesAt
          exact List.mem_map.mpr ⟨piece, listed, by simp [filled]⟩
        exact mem_newRegion inside
  · rw [List.mem_singleton.mp last]
    exact behind (own _ (by simp [newRegion]))

/-- The margin of a region is made of characters of the file. -/
theorem legal_region (whole : file.Legal legal) {name : Text} {region : Region}
    (found : file.region? name = some region) : ∀ c ∈ region.margin, legal c := by
  unfold region? at found
  cases begins : indexOf? file.lines (Marker.beginning name) with
  | none => simp [begins] at found
  | some first =>
    cases ends : indexOf? (file.lines.drop first) (Marker.ending name) with
    | none => simp [begins, ends] at found
    | some length =>
      simp only [begins, ends, bind, Option.bind, Option.some.injEq] at found
      subst found
      intro c inside
      obtain ⟨low, -, -⟩ := List.findIdx?_eq_some_iff_getElem.mp begins
      have line : file.lines.getD first [] ∈ file.lines := by
        rw [List.getD, List.getElem?_eq_getElem low]
        exact List.getElem_mem low
      exact whole _ line c (List.takeWhile_subset _ inside)

/-- An insertion brings the characters of the entry, blanks and tabs. -/
theorem legal_insert (blank : legal ' ') (tab : legal '\t') (own : registration.Legal legal)
    (whole : file.Legal legal) (done : file.insert registration = .ok (answer, changed)) :
    changed.Legal legal := by
  have around : ∀ {index : Nat} {lines : List Text}, (∀ line ∈ lines, ∀ c ∈ line, legal c) →
      (file.insertLines index lines).Legal legal := by
    intro index lines fine line member
    unfold insertLines at member
    rcases List.mem_append.mp member with early | late
    · rcases List.mem_append.mp early with old | new
      · exact whole line (List.mem_of_mem_take old)
      · exact fine line new
    · exact whole line (List.mem_of_mem_drop late)
  rcases insert_cases done with ⟨-, rfl, -⟩ | ⟨-, rfl, -⟩ | ⟨-, -, region, found, rfl⟩ |
    ⟨-, -, -, site, found, rfl⟩
  · exact whole
  · exact whole
  · exact around fun line member =>
      legal_newRegion own (legal_region whole found) line (mem_newRegion member)
  · refine around (legal_newRegion own fun c inside => ?_)
    rcases space_or_tab_of_mem_site found c inside with rfl | rfl
    · exact blank
    · exact tab

/-- A saved file has the characters of its lines, and line feeds. -/
theorem legal_toText (feed : legal '\n') (whole : file.Legal legal) : ∀ c ∈ file.toText, legal c := by
  intro c inside
  unfold toText joined Text.unlines at inside
  rcases List.mem_append.mp inside with early | late
  · rcases Text.mem_joinWith early with between | ⟨line, member, there⟩
    · rw [List.mem_singleton.mp between]
      exact feed
    · exact whole line member c there
  · split at late
    · rw [List.mem_singleton.mp late]
      exact feed
    · simp at late

/-- The lines of a text have its characters. -/
theorem legal_ofText {text : Text} (whole : ∀ c ∈ text, legal c) : (ofText text).Legal legal := by
  have row : ∀ {row : Text}, row ∈ Text.rows text → ∀ c ∈ row, legal c := by
    intro row member c inside
    refine whole c ?_
    rw [← Text.unlines_rows text]
    exact Text.mem_joinWith_of_mem ['\n'] member inside
  intro line member c inside
  have listed : line ∈ Text.linesOfRows (Text.rows text) := by
    rw [← Text.lines_eq_rows]
    exact member
  rcases Text.mem_of_mem_linesOfRows listed with same | longer
  · exact row same c inside
  · exact row longer c (List.mem_append_left _ inside)

end SharedFile

namespace Project

open SharedFile

variable {path : FilePath} {file updated : SharedFile} {registrations : List Registration}
  {reports : List EntryReport} {legal : Char → Prop}

/-- Insertions bring the characters of the entries, blanks and tabs. -/
theorem legal_insertAll (blank : legal ' ') (tab : legal '\t')
    (own : ∀ registration ∈ registrations, registration.Legal legal) (whole : file.Legal legal)
    (done : insertAll path file registrations = .ok (updated, reports)) : updated.Legal legal := by
  induction registrations generalizing file reports with
  | nil =>
    obtain ⟨rfl, -⟩ := insertAll_nil_ok.mp done
    exact whole
  | cons registration rest ih =>
    obtain ⟨answer, changed, later, first, others, -⟩ := insertAll_cons_ok.mp done
    exact ih (fun other member => own other (List.mem_cons_of_mem _ member))
      (legal_insert blank tab (own registration List.mem_cons_self) whole first) others

/-- A text is at rest for registrations: it is saved as it was read, and none of them would be
inserted. -/
structure AtRest (text : Text) (registrations : List Registration) : Prop where
  /-- Reading and saving gives the text back. -/
  saved : (ofText text).toText = text
  /-- No registration would be inserted. -/
  settled : ∀ registration ∈ registrations, (ofText text).Settled registration

/-- A text that insertions left without carriage returns is saved as it was read. -/
theorem saved_insertAll {before : Text} (clean : '\x0d' ∉ before)
    (anchored : ∀ registration ∈ registrations, registration.anchor ∈ Anchor.generated)
    (own : ∀ registration ∈ registrations, registration.Legal (· ≠ '\x0d'))
    (done : insertAll path (ofText before) registrations = .ok (updated, reports)) :
    (ofText updated.toText).toText = updated.toText := by
  have noReturn : ∀ {text : Text}, (∀ c ∈ text, c ≠ '\x0d') → ¬Text.returnFeed <:+: text := by
    intro text whole inside
    exact whole '\x0d' (inside.subset (by simp [Text.returnFeed])) rfl
  have legalBefore : ∀ c ∈ before, c ≠ '\x0d' := by
    rintro c inside rfl
    exact clean inside
  have whole := legal_toText (by decide)
    (legal_insertAll (by decide) (by decide) own (legal_ofText legalBefore) done)
  refine toText_ofText_iff.mpr ⟨?_, noReturn whole⟩
  by_cases filled : before = []
  · subst filled
    rw [insertAll_empty (fun registration member =>
      Anchor.locate_feed _ (anchored registration member)) done]
    decide
  · obtain ⟨ended, added, weave, -⟩ := weave_insertAll done
    have woven := weave_savedRows filled ended weave
    rw [savedRows_rows_iff.mpr (noReturn legalBefore)] at woven
    intro empty
    rw [empty, Text.rows_nil] at woven
    have length := woven.perm.length_eq
    obtain ⟨row, rest, rows⟩ := List.exists_cons_of_ne_nil (Text.rows_ne_nil before)
    rw [rows] at woven length
    obtain ⟨rfl, none⟩ : rest = [] ∧ added.flatMap Text.rows = [] := by
      constructor <;> apply List.eq_nil_of_length_eq_zero <;>
        (simp only [List.length_append, List.length_cons, List.length_nil] at length; omega)
    rw [none] at woven
    have same := woven.eq_of_none
    rw [List.cons.injEq] at same
    rw [← same.1] at rows
    have text := Text.unlines_rows before
    rw [rows] at text
    exact filled text.symm

/-- An empty text is at rest once it was saved. -/
theorem settled_feed {registration : Registration}
    (anchored : registration.anchor ∈ Anchor.generated) :
    (ofText ['\n']).Settled registration := by
  have region : (ofText ['\n']).region? registration.region = none := by
    rw [region?_eq_none_iff]
    rintro ⟨first, last, both, -⟩
    have length := both.length_le
    have one : (ofText ['\n']).lines.length = 1 := by decide
    rw [one] at length
    simp at length
  exact .inr ⟨region, Anchor.locate_feed _ anchored⟩

/-- **Entries of one region are at rest after their insertion.** -/
theorem atRest_insertAll {region : Text} {anchor : Anchor} (tidy : Tidy region)
    (uniform : ∀ registration ∈ registrations,
      registration.region = region ∧ registration.anchor = anchor)
    (evident : ∀ registration ∈ registrations, registration.entry.Evident ∧
      Text.IsOneLine registration.entry.presence.text)
    (anchored : ∀ registration ∈ registrations, registration.anchor ∈ Anchor.generated)
    (own : ∀ registration ∈ registrations, registration.Legal (· ≠ '\x0d'))
    {before : Text} (clean : '\x0d' ∉ before)
    (done : insertAll path (ofText before) registrations = .ok (updated, reports)) :
    AtRest updated.toText registrations := by
  refine ⟨saved_insertAll clean anchored own done, fun registration member => ?_⟩
  rcases insertAll_settles tidy uniform evident done with present | ⟨rfl, settled⟩
  · exact .inl (contains_reload (evident registration member).2 (present registration member))
  · by_cases filled : before = []
    · subst filled
      exact settled_feed (anchored registration member)
    · have same : (ofText before).toText = before := by
        refine toText_ofText_iff.mpr ⟨filled, fun inside => clean ?_⟩
        exact inside.subset (by simp [Text.returnFeed])
      rw [same]
      exact settled registration member

end Project

end Scaffold
