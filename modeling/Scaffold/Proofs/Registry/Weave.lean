import Scaffold.Proofs.Registry.Insertion
import Scaffold.Project.Install

/-!
# What is added and what stays

Insertions put lines between the lines of a file and change nothing else: the file afterwards is
woven from the lines that it had and the added ones, both in their order (`weave_insertAll`). The
added lines are markers and lines of entries that were reported as inserted, and a file to which
nothing was reported as inserted stays as it was (`insertAll_eq_of_none`).
-/
namespace Scaffold

/-- The members of a list are those of two others, each in its order. -/
inductive Weave {α : Type} : List α → List α → List α → Prop where
  /-- There is nothing. -/
  | nil : Weave [] [] []
  /-- The next member was there. -/
  | keep {kept added all : List α} (value : α) :
    Weave kept added all → Weave (value :: kept) added (value :: all)
  /-- The next member was added. -/
  | add {kept added all : List α} (value : α) :
    Weave kept added all → Weave kept (value :: added) (value :: all)

namespace Weave

variable {α β : Type} {kept added all more others last : List α}

/-- Nothing is added to a list. -/
theorem refl (all : List α) : Weave all [] all := by
  induction all with
  | nil => exact nil
  | cons value rest ih => exact keep value ih

/-- All of a list is added to nothing. -/
theorem fresh (all : List α) : Weave [] all all := by
  induction all with
  | nil => exact nil
  | cons value rest ih => exact add value ih

/-- Where nothing is added, everything stays. -/
theorem eq_of_none (weave : Weave kept [] all) : all = kept := by
  generalize none : ([] : List α) = added at weave
  induction weave with
  | nil => rfl
  | keep value _ ih => rw [ih none]
  | add value _ _ => exact absurd none (by simp)

/-- Two woven lists behind each other. -/
theorem append (first : Weave kept added all) (second : Weave more others last) :
    Weave (kept ++ more) (added ++ others) (all ++ last) := by
  induction first with
  | nil => exact second
  | keep value _ ih => exact keep value ih
  | add value _ ih => exact add value ih

/-- A woven list can be cut anywhere. -/
theorem cut {before after : List α} (weave : Weave kept added (before ++ after)) :
    ∃ firstKept lastKept firstAdded lastAdded, kept = firstKept ++ lastKept ∧
      added = firstAdded ++ lastAdded ∧ Weave firstKept firstAdded before ∧
      Weave lastKept lastAdded after := by
  induction before generalizing kept added with
  | nil => exact ⟨[], kept, [], added, rfl, rfl, nil, weave⟩
  | cons value rest ih =>
    cases weave with
    | keep _ behind =>
      obtain ⟨firstKept, lastKept, firstAdded, lastAdded, rfl, rfl, first, second⟩ := ih behind
      exact ⟨value :: firstKept, lastKept, firstAdded, lastAdded, rfl, rfl, keep value first,
        second⟩
    | add _ behind =>
      obtain ⟨firstKept, lastKept, firstAdded, lastAdded, rfl, rfl, first, second⟩ := ih behind
      exact ⟨firstKept, lastKept, value :: firstAdded, lastAdded, rfl, rfl, add value first,
        second⟩

/-- Members put in at a place of a woven list are added ones. -/
theorem insert {before after : List α} (weave : Weave kept added (before ++ after))
    (more : List α) : ∃ early late, added = early ++ late ∧
      Weave kept (early ++ more ++ late) (before ++ more ++ after) := by
  obtain ⟨firstKept, lastKept, early, late, rfl, rfl, first, second⟩ := weave.cut
  have woven := (first.append (fresh more)).append second
  rw [List.append_nil] at woven
  exact ⟨early, late, rfl, woven⟩

/-- The members are those that were there and those that were added. -/
theorem perm (weave : Weave kept added all) : all.Perm (kept ++ added) := by
  induction weave with
  | nil => exact .nil
  | keep value _ ih => exact ih.cons value
  | add value _ ih => exact (ih.cons value).trans List.perm_middle.symm

/-- What was there is there in its order. -/
theorem sublist (weave : Weave kept added all) : kept.Sublist all := by
  induction weave with
  | nil => exact .slnil
  | keep value _ ih => exact ih.cons_cons value
  | add value _ ih => exact ih.cons value

/-- Each member may be taken apart. -/
theorem flatMap (weave : Weave kept added all) (parts : α → List β) :
    Weave (kept.flatMap parts) (added.flatMap parts) (all.flatMap parts) := by
  induction weave with
  | nil => exact nil
  | keep value _ ih => exact (refl (parts value)).append ih
  | add value _ ih => exact (fresh (parts value)).append ih

end Weave

/-- A line that a registration adds to its file: a marker of its region, or one of the lines of its
entry, behind a margin. -/
def Registration.Adds (registration : Registration) (line : Text) : Prop :=
  ∃ margin : Text, (∀ c ∈ margin, Text.isBlank c = true) ∧
    line ∈ SharedFile.newRegion registration margin

namespace SharedFile

/-- The lines of an entry are among those of its region. -/
theorem mem_newRegion {registration : Registration} {margin line : Text}
    (member : line ∈ registration.entry.linesAt margin) :
    line ∈ newRegion registration margin := by
  simp [newRegion, member]

/-- One insertion weaves lines into those of a file, or changes nothing. -/
theorem weave_insert {file changed : SharedFile} {registration : Registration}
    {answer : Insertion} (done : file.insert registration = .ok (answer, changed))
    {kept added : List Text} (weave : Weave kept added file.lines) :
    (answer ≠ .inserted ∧ changed = file) ∨
    (answer = .inserted ∧ changed.ended = file.ended ∧ ∃ early lines late,
      added = early ++ late ∧ (∀ line ∈ lines, registration.Adds line) ∧
      Weave kept (early ++ lines ++ late) changed.lines) := by
  rcases insert_cases done with ⟨rfl, rfl, -⟩ | ⟨rfl, rfl, -⟩ | ⟨rfl, -, region, found, rfl⟩ |
    ⟨rfl, -, -, site, found, rfl⟩
  · exact .inl ⟨by simp, rfl⟩
  · exact .inl ⟨by simp, rfl⟩
  · rw [← List.take_append_drop region.last file.lines] at weave
    obtain ⟨early, late, same, woven⟩ :=
      weave.insert (registration.entry.linesAt region.margin)
    exact .inr ⟨rfl, rfl, early, _, late, same,
      fun line member => ⟨region.margin, isBlank_of_mem_region found, mem_newRegion member⟩, woven⟩
  · rw [← List.take_append_drop site.line file.lines] at weave
    obtain ⟨early, late, same, woven⟩ := weave.insert (newRegion registration site.margin)
    exact .inr ⟨rfl, rfl, early, _, late, same,
      fun line member => ⟨site.margin, isBlank_of_mem_site found, member⟩, woven⟩

end SharedFile

namespace Project

variable {path : FilePath} {file updated : SharedFile} {registration : Registration}
  {registrations : List Registration} {reports : List EntryReport}

/-- Without registrations the file stays, and nothing is reported. -/
theorem insertAll_nil_ok :
    insertAll path file [] = .ok (updated, reports) ↔ file = updated ∧ [] = reports := by
  show Except.ok (file, []) = Except.ok (updated, reports) ↔ _
  rw [Except.ok.injEq, Prod.mk.injEq]

/-- The first of several insertions and the others. -/
theorem insertAll_cons_ok :
    insertAll path file (registration :: registrations) = .ok (updated, reports) ↔
      ∃ answer changed later, file.insert registration = .ok (answer, changed) ∧
        insertAll path changed registrations = .ok (updated, later) ∧
        reports = ⟨path, registration.entry.key, resultOf answer⟩ :: later := by
  rw [insertAll]
  cases done : file.insert registration with
  | error fault => simp
  | ok result =>
    obtain ⟨answer, changed⟩ := result
    cases others : insertAll path changed registrations with
    | error failure => simp [others]
    | ok more =>
      obtain ⟨last, later⟩ := more
      simp only [others, Except.ok.injEq, Prod.mk.injEq]
      constructor
      · rintro ⟨rfl, rfl⟩
        exact ⟨answer, changed, later, ⟨rfl, rfl⟩, by rw [others], rfl⟩
      · rintro ⟨_, _, more, ⟨rfl, rfl⟩, again, rfl⟩
        rw [others] at again
        obtain ⟨rfl, rfl⟩ : last = updated ∧ later = more := by simpa using again
        exact ⟨rfl, rfl⟩

/-- The reports are about the entries in their order. -/
theorem map_insertAll (done : insertAll path file registrations = .ok (updated, reports)) :
    reports.map (fun report => (report.file, report.key)) =
      registrations.map fun registration => (path, registration.entry.key) := by
  induction registrations generalizing file reports with
  | nil =>
    obtain ⟨-, rfl⟩ := insertAll_nil_ok.mp done
    rfl
  | cons registration rest ih =>
    obtain ⟨answer, changed, later, -, others, rfl⟩ := insertAll_cons_ok.mp done
    rw [List.map_cons, List.map_cons, ih others]

/-- An entry was added by one of the registrations that are reported as inserted. -/
def AddedBy (path : FilePath) (registrations : List Registration) (reports : List EntryReport)
    (line : Text) : Prop :=
  ∃ registration ∈ registrations, ⟨path, registration.entry.key, .inserted⟩ ∈ reports ∧
    registration.Adds line

/-- **What several insertions do to a file.** They weave lines of the entries that are reported as
inserted into its own. -/
theorem weave_insertAll (done : insertAll path file registrations = .ok (updated, reports)) :
    updated.ended = file.ended ∧ ∃ added, Weave file.lines added updated.lines ∧
      ∀ line ∈ added, AddedBy path registrations reports line := by
  have general : ∀ {file : SharedFile} {kept added : List Text} {reports : List EntryReport}
      (registrations : List Registration), Weave kept added file.lines →
      insertAll path file registrations = .ok (updated, reports) →
      updated.ended = file.ended ∧ ∃ all, Weave kept all updated.lines ∧
        ∀ line ∈ all, line ∈ added ∨ AddedBy path registrations reports line := by
    intro file kept added reports registrations
    induction registrations generalizing file added reports with
    | nil =>
      intro weave done
      obtain ⟨rfl, -⟩ := insertAll_nil_ok.mp done
      exact ⟨rfl, added, weave, fun line member => .inl member⟩
    | cons registration rest ih =>
      intro weave done
      obtain ⟨answer, changed, later, first, others, rfl⟩ := insertAll_cons_ok.mp done
      have wider : ∀ line, AddedBy path rest later line → AddedBy path (registration :: rest)
          (⟨path, registration.entry.key, resultOf answer⟩ :: later) line := by
        rintro line ⟨own, member, reported, adds⟩
        exact ⟨own, List.mem_cons_of_mem _ member, List.mem_cons_of_mem _ reported, adds⟩
      rcases SharedFile.weave_insert first weave with ⟨-, rfl⟩ |
        ⟨rfl, ended, early, lines, late, rfl, adds, woven⟩
      · obtain ⟨ended, all, woven, source⟩ := ih weave others
        exact ⟨ended, all, woven, fun line member => (source line member).imp_right (wider line)⟩
      · obtain ⟨same, all, woven, source⟩ := ih woven others
        refine ⟨same.trans ended, all, woven, fun line member => ?_⟩
        rcases source line member with here | further
        · rcases List.mem_append.mp here with front | behind
          · rcases List.mem_append.mp front with old | new
            · exact .inl (List.mem_append_left _ old)
            · exact .inr ⟨registration, List.mem_cons_self, List.mem_cons_self, adds line new⟩
          · exact .inl (List.mem_append_right _ behind)
        · exact .inr (wider line further)
  obtain ⟨ended, added, weave, all⟩ := general registrations (Weave.refl file.lines) done
  exact ⟨ended, added, weave, fun line member => (all line member).resolve_left (by simp)⟩

/-- Where nothing is reported as inserted, the file stays as it was. -/
theorem insertAll_eq_of_none (done : insertAll path file registrations = .ok (updated, reports))
    (none : ∀ report ∈ reports, report.result ≠ .inserted) : updated = file := by
  obtain ⟨ended, added, weave, all⟩ := weave_insertAll done
  have empty : added = [] := by
    rw [List.eq_nil_iff_forall_not_mem]
    intro line member
    obtain ⟨registration, -, reported, -⟩ := all line member
    exact none _ reported rfl
  subst empty
  have lines := weave.eq_of_none
  cases updated
  cases file
  simp_all

end Project

end Scaffold
