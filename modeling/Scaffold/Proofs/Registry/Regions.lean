import Scaffold.Proofs.Registry.Persistence
import Scaffold.Proofs.Registry.Weave

/-!
# Regions and repeated insertions

A file has a region where a line that begins it stands above one that ends it
(`region?_eq_none_iff`), and keeps it whatever is inserted. So of entries that share a region and an
anchor either all find a place or none does, and after their insertion every one of them is settled:
it would not be inserted again (`insertAll_settles`, `insertAll_of_settled`).
-/
namespace Scaffold

namespace SharedFile

variable {file changed : SharedFile} {registration : Registration} {answer : Insertion}
  {name : Text}

/-- A line that begins a region stands above one that ends it. -/
def HasRegion (file : SharedFile) (name : Text) : Prop :=
  ∃ first last, [first, last].Sublist file.lines ∧ Text.trim first = Marker.beginning name ∧
    Text.trim last = Marker.ending name

/-- No line both begins and ends a region. -/
theorem beginning_ne_ending (name : Text) : Marker.beginning name ≠ Marker.ending name := by
  have apart : ∀ rest : Text, ("begin " : Text) ++ rest ≠ ("end " : Text) ++ rest := by
    intro rest same
    have first := congrArg List.head? same
    have heads : ("begin " : Text).head? = some 'b' ∧ ("end " : Text).head? = some 'e' := by
      decide
    rw [List.head?_append, List.head?_append, heads.1, heads.2] at first
    simp at first
  intro same
  unfold Marker.beginning Marker.ending at same
  rw [List.append_assoc, List.append_assoc] at same
  exact apart name (List.append_cancel_left same)

/-- There is no region exactly if no line that begins it stands above one that ends it. -/
theorem region?_eq_none_iff : file.region? name = none ↔ ¬file.HasRegion name := by
  unfold region?
  cases begins : indexOf? file.lines (Marker.beginning name) with
  | none =>
    have absent := List.findIdx?_eq_none_iff.mp begins
    simp only [Option.bind_eq_bind, Option.bind_none, true_iff]
    rintro ⟨first, last, both, opens, -⟩
    have inside : first ∈ file.lines := both.subset List.mem_cons_self
    simpa [opens] using absent first inside
  | some index =>
    obtain ⟨low, opens, earlier⟩ := List.findIdx?_eq_some_iff_getElem.mp begins
    have split : file.lines.drop index = file.lines[index] :: file.lines.drop (index + 1) :=
      List.drop_eq_getElem_cons low
    have own : Text.trim file.lines[index] = Marker.beginning name := by simpa using opens
    cases ends : indexOf? (file.lines.drop index) (Marker.ending name) with
    | none =>
      have absent := List.findIdx?_eq_none_iff.mp ends
      simp only [Option.bind_eq_bind, Option.bind_some, ends, Option.bind_none, true_iff]
      rintro ⟨first, last, both, begun, ended⟩
      rw [← List.take_append_drop index file.lines] at both
      obtain ⟨front, behind, same, before, after⟩ := List.sublist_append_iff.mp both
      cases front with
      | nil =>
        rw [List.nil_append] at same
        rw [← same] at after
        have inside : last ∈ file.lines.drop index :=
          after.subset (List.mem_cons_of_mem _ List.mem_cons_self)
        simpa [ended] using absent last inside
      | cons line rest =>
        obtain rfl : first = line := (List.cons.inj same).1
        have inside := before.subset List.mem_cons_self
        obtain ⟨place, small, rfl⟩ := List.mem_take_iff_getElem.mp inside
        exact absurd begun (by simpa using earlier place (by omega))
    | some length =>
      obtain ⟨close, closes, -⟩ := List.findIdx?_eq_some_iff_getElem.mp ends
      obtain ⟨last, member, closing⟩ : ∃ last ∈ file.lines.drop index,
          Text.trim last = Marker.ending name :=
        ⟨_, List.getElem_mem close, by simpa using closes⟩
      have later : last ∈ file.lines.drop (index + 1) := by
        rw [split] at member
        rcases List.mem_cons.mp member with same | later
        · rw [same, own] at closing
          exact absurd closing (beginning_ne_ending name)
        · exact later
      have both : [file.lines[index], last].Sublist file.lines := by
        refine List.Sublist.trans ?_ (List.drop_sublist index file.lines)
        rw [split]
        exact (List.singleton_sublist.mpr later).cons_cons _
      simp only [Option.bind_eq_bind, Option.bind_some, ends, reduceCtorEq, false_iff]
      exact fun none => none ⟨_, last, both, own, closing⟩

/-- A file keeps the regions of its lines. -/
theorem HasRegion.mono (has : file.HasRegion name) (kept : file.lines.Sublist changed.lines) :
    changed.HasRegion name := by
  obtain ⟨first, last, both, opens, closes⟩ := has
  exact ⟨first, last, both.trans kept, opens, closes⟩

/-- The lines of a file stay when others are put in. -/
theorem sublist_insertLines (file : SharedFile) (index : Nat) (lines : List Text) :
    file.lines.Sublist (file.insertLines index lines).lines := by
  have whole := (List.Sublist.refl (file.lines.take index)).append
    (List.sublist_append_right lines (file.lines.drop index))
  rw [List.take_append_drop, ← List.append_assoc] at whole
  exact whole

/-- The lines of a file stay when an entry is added. -/
theorem sublist_insert (done : file.insert registration = .ok (answer, changed)) :
    file.lines.Sublist changed.lines := by
  rcases insert_cases done with ⟨-, rfl, -⟩ | ⟨-, rfl, -⟩ | ⟨-, -, _, -, rfl⟩ | ⟨-, -, -, _, -, rfl⟩
  · exact List.Sublist.refl _
  · exact List.Sublist.refl _
  · exact sublist_insertLines file _ _
  · exact sublist_insertLines file _ _

/-- The markers of a region have no blanks at their ends. -/
def Tidy (name : Text) : Prop :=
  Text.trim (Marker.beginning name) = Marker.beginning name ∧
    Text.trim (Marker.ending name) = Marker.ending name

/-- Whether they have none can be computed. -/
instance (name : Text) : Decidable (Tidy name) := inferInstanceAs (Decidable (_ ∧ _))

/-- A file has the region that an entry was added to. -/
theorem hasRegion_of_inserted (tidy : Tidy registration.region)
    (done : file.insert registration = .ok (.inserted, changed)) :
    changed.HasRegion registration.region := by
  have kept := sublist_insert done
  rcases insert_cases done with ⟨none, -⟩ | ⟨none, -⟩ | ⟨-, -, region, found, -⟩ |
    ⟨-, -, -, site, found, rfl⟩
  · exact absurd none (by simp)
  · exact absurd none (by simp)
  · refine HasRegion.mono (Classical.byContradiction fun missing => ?_) kept
    rw [region?_eq_none_iff.mpr missing] at found
    exact absurd found (by simp)
  · have blank := isBlank_of_mem_site found
    refine ⟨site.margin ++ Marker.beginning registration.region,
      site.margin ++ Marker.ending registration.region, ?_, ?_, ?_⟩
    · have own : [site.margin ++ Marker.beginning registration.region,
          site.margin ++ Marker.ending registration.region].Sublist
          (newRegion registration site.margin) := by
        unfold newRegion
        refine List.Sublist.cons_cons _ ?_
        exact List.sublist_append_right _ _
      refine own.trans ?_
      have inside := (List.sublist_append_right (file.lines.take site.line)
        (newRegion registration site.margin)).trans
        (List.sublist_append_left _ (file.lines.drop site.line))
      exact inside
    · rw [Text.trim_append_left blank, tidy.1]
    · rw [Text.trim_append_left blank, tidy.2]

/-- A registration would not be inserted: its entry is recognised, or there is neither a region nor
an anchor. -/
def Settled (file : SharedFile) (registration : Registration) : Prop :=
  file.contains registration.entry = true ∨ file.region? registration.region = none ∧
    registration.anchor.locate file.toText = .ok none

/-- A settled registration is not inserted. -/
theorem Settled.insert (settled : file.Settled registration) :
    ∃ answer, file.insert registration = .ok (answer, file) ∧ answer ≠ .inserted := by
  rcases settled with present | ⟨missing, nowhere⟩
  · exact ⟨.alreadyPresent, insert_of_contains present, by simp⟩
  · by_cases present : file.contains registration.entry = true
    · exact ⟨.alreadyPresent, insert_of_contains present, by simp⟩
    · exact ⟨.anchorNotFound, by simp [SharedFile.insert, present, missing, nowhere], by simp⟩

end SharedFile

namespace Project

variable {path : FilePath} {file updated : SharedFile} {registrations : List Registration}
  {reports : List EntryReport}

open SharedFile

/-- Settled registrations change nothing. -/
theorem insertAll_of_settled (settled : ∀ registration ∈ registrations, file.Settled registration) :
    ∃ reports, insertAll path file registrations = .ok (file, reports) ∧
      ∀ report ∈ reports, report.result ≠ .inserted := by
  induction registrations with
  | nil => exact ⟨[], rfl, by simp⟩
  | cons registration rest ih =>
    obtain ⟨answer, first, other⟩ := (settled registration List.mem_cons_self).insert
    obtain ⟨reports, others, none⟩ := ih fun later member =>
      settled later (List.mem_cons_of_mem _ member)
    refine ⟨_, insertAll_cons_ok.mpr ⟨answer, file, reports, first, others, rfl⟩, ?_⟩
    intro report member
    rcases List.mem_cons.mp member with rfl | member
    · cases answer with
      | inserted => exact absurd rfl other
      | alreadyPresent => simp [resultOf]
      | anchorNotFound => simp [resultOf]
    · exact none report member

/-- What is recognised stays recognised when entries are added. -/
theorem contains_insertAll {entry : Entry} (line : Text.IsOneLine entry.presence.text)
    (done : insertAll path file registrations = .ok (updated, reports))
    (present : file.contains entry = true) : updated.contains entry = true := by
  induction registrations generalizing file reports with
  | nil =>
    obtain ⟨rfl, -⟩ := insertAll_nil_ok.mp done
    exact present
  | cons registration rest ih =>
    obtain ⟨answer, changed, later, first, others, -⟩ := insertAll_cons_ok.mp done
    exact ih others (contains_insert first line present)

/-- Nothing is added to a file without the region and without the anchor. -/
theorem insertAll_of_closed {region : Text} {anchor : Anchor}
    (uniform : ∀ registration ∈ registrations,
      registration.region = region ∧ registration.anchor = anchor)
    (missing : ¬file.HasRegion region)
    (nowhere : ∀ site, anchor.locate file.toText ≠ .ok (some site))
    (done : insertAll path file registrations = .ok (updated, reports)) :
    updated = file ∧ ∀ registration ∈ registrations, file.Settled registration := by
  induction registrations generalizing reports with
  | nil =>
    obtain ⟨rfl, -⟩ := insertAll_nil_ok.mp done
    exact ⟨rfl, by simp⟩
  | cons registration rest ih =>
    obtain ⟨answer, changed, later, first, others, -⟩ := insertAll_cons_ok.mp done
    obtain ⟨own, anchored⟩ := uniform registration List.mem_cons_self
    have none := region?_eq_none_iff.mpr missing
    have settled : changed = file ∧ file.Settled registration := by
      rcases insert_cases first with ⟨-, rfl, present⟩ | ⟨-, rfl, -, absent, none⟩ |
        ⟨-, -, found, there, -⟩ | ⟨-, -, -, site, there, -⟩
      · exact ⟨rfl, .inl present⟩
      · exact ⟨rfl, .inr ⟨absent, none⟩⟩
      · rw [own, none] at there
        exact absurd there (by simp)
      · rw [anchored] at there
        exact absurd there (nowhere site)
    obtain ⟨rfl, here⟩ := settled
    obtain ⟨same, behind⟩ := ih (fun later member => uniform later (List.mem_cons_of_mem _ member))
      others
    refine ⟨same, fun other member => ?_⟩
    rcases List.mem_cons.mp member with rfl | member
    · exact here
    · exact behind other member

/-- All entries get into a file that has the region or the anchor. -/
theorem insertAll_of_open {region : Text} {anchor : Anchor} (tidy : Tidy region)
    (uniform : ∀ registration ∈ registrations,
      registration.region = region ∧ registration.anchor = anchor)
    (evident : ∀ registration ∈ registrations, registration.entry.Evident ∧
      Text.IsOneLine registration.entry.presence.text)
    (room : file.HasRegion region ∨ ∃ site, anchor.locate file.toText = .ok (some site))
    (done : insertAll path file registrations = .ok (updated, reports)) :
    ∀ registration ∈ registrations, updated.contains registration.entry = true := by
  induction registrations generalizing file reports with
  | nil => simp
  | cons registration rest ih =>
    obtain ⟨answer, changed, later, first, others, -⟩ := insertAll_cons_ok.mp done
    obtain ⟨own, anchored⟩ := uniform registration List.mem_cons_self
    obtain ⟨shows, line⟩ := evident registration List.mem_cons_self
    have success : answer ≠ .anchorNotFound := by
      rcases insert_cases first with ⟨rfl, -⟩ | ⟨-, -, -, absent, none⟩ | ⟨rfl, -⟩ | ⟨rfl, -⟩
      · simp
      · rw [own, region?_eq_none_iff] at absent
        rw [anchored] at none
        rcases room with has | ⟨site, found⟩
        · exact absurd has absent
        · rw [none] at found
          exact absurd found (by simp)
      · simp
      · simp
    have still : changed.HasRegion region ∨
        ∃ site, anchor.locate changed.toText = .ok (some site) := by
      cases answer with
      | inserted => exact .inl (own ▸ hasRegion_of_inserted (own.symm ▸ tidy) first)
      | alreadyPresent =>
        rcases insert_cases first with ⟨-, rfl, -⟩ | ⟨none, -⟩ | ⟨none, -⟩ | ⟨none, -⟩
        · exact room
        · exact absurd none (by simp)
        · exact absurd none (by simp)
        · exact absurd none (by simp)
      | anchorNotFound => exact absurd rfl success
    intro other member
    rcases List.mem_cons.mp member with rfl | member
    · exact contains_insertAll line others (contains_of_insert first success shows)
    · exact ih (fun later inside => uniform later (List.mem_cons_of_mem _ inside))
        (fun later inside => evident later (List.mem_cons_of_mem _ inside)) still others other member

/-- **Entries of one region are settled by their insertion.** Either all are recognised afterwards,
or nothing was added and none would be. -/
theorem insertAll_settles {region : Text} {anchor : Anchor} (tidy : Tidy region)
    (uniform : ∀ registration ∈ registrations,
      registration.region = region ∧ registration.anchor = anchor)
    (evident : ∀ registration ∈ registrations, registration.entry.Evident ∧
      Text.IsOneLine registration.entry.presence.text)
    (done : insertAll path file registrations = .ok (updated, reports)) :
    (∀ registration ∈ registrations, updated.contains registration.entry = true) ∨
      updated = file ∧ ∀ registration ∈ registrations, file.Settled registration := by
  by_cases room : file.HasRegion region ∨ ∃ site, anchor.locate file.toText = .ok (some site)
  · exact .inl (insertAll_of_open tidy uniform evident room done)
  · rw [not_or, not_exists] at room
    exact .inr (insertAll_of_closed uniform room.1 room.2 done)

end Project

end Scaffold
