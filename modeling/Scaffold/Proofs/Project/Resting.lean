import Scaffold.Proofs.Project.Rehearsal
import Scaffold.Proofs.Registry.Repetition

/-!
# Shared files at rest

A shared file rests if it is missing or its text is at rest for its entries (`Project.Rests`). Adding
entries to shared files leaves them all resting (`rests_addAllEntries`), and adding them again to
resting files changes nothing (`addAllEntries_of_rests`). Meanwhile the artifacts stay as they were
written (`node?_artifact_addAllEntries`), and no shared file appears or vanishes
(`isFile_addAllEntries`).
-/
namespace Scaffold

open FilePath

/-- Where all places are as before, a path leads to the same file. -/
theorem Tree.SameFile.of_node?_eq {tree other : Tree}
    (same : ∀ place, other.node? place = tree.node? place) (start : Location) (path : FilePath) :
    tree.SameFile other start path := by
  have kept : tree.Extends other := fun place there => by rw [same, there]
  have back : other.Extends tree := fun place there => by rw [← same, there]
  intro location content
  constructor
  · rintro ⟨reached, there⟩
    exact ⟨kept.locate reached, by rw [same, there]⟩
  · rintro ⟨reached, there⟩
    exact ⟨back.locate reached, by rw [← same, there]⟩

namespace Project

open Scaffold.Tree

variable {project : Project} {tree changed : Tree} {plan : Plan} {file : FilePath}
  {registrations : List Registration} {reports : List EntryReport}

/-- A shared file rests: it is missing, or its text is at rest for its entries. -/
def Rests (project : Project) (tree : Tree) (file : FilePath)
    (registrations : List Registration) : Prop :=
  tree.isFile project.start (project.pathOf file) = false ∨ ∃ location text,
    tree.locate project.start (project.pathOf file) = .ok location ∧
      tree.node? location = some (.file (.text text)) ∧ AtRest text registrations

/-- A file that is the same in another tree rests there. -/
theorem Rests.congr (rests : project.Rests tree file registrations)
    (same : tree.SameFile changed project.start (project.pathOf file)) :
    project.Rests changed file registrations := by
  rcases rests with missing | ⟨location, text, reached, there, still⟩
  · exact .inl (by rw [← same.isFile_eq, missing])
  · obtain ⟨again, here⟩ := (same location (.text text)).mp ⟨reached, there⟩
    exact .inr ⟨location, text, again, here, still⟩

/-- Adding entries to a resting file changes nothing. -/
theorem Rests.addEntries (rests : project.Rests tree file registrations) :
    ∃ reports, project.addEntries tree file registrations = (tree, .ok reports) ∧
      ∀ report ∈ reports, report.result ≠ .inserted := by
  rcases rests with missing | ⟨location, text, reached, there, saved, settled⟩
  · refine ⟨registrations.map fun registration => ⟨file, registration.entry.key, .fileNotFound⟩,
      by simp [Project.addEntries, missing], fun report member => ?_⟩
    obtain ⟨registration, -, rfl⟩ := List.mem_map.mp member
    simp
  · obtain ⟨reports, inserted, none⟩ := @insertAll_of_settled file _ _ settled
    have isFile : tree.isFile project.start (project.pathOf file) = true :=
      isFile_iff.mpr ⟨location, _, reached, there⟩
    have content : tree.readText project.start (project.pathOf file) = .ok text :=
      readText_ok.mpr ⟨location, reached, there⟩
    exact ⟨reports, by simp [Project.addEntries, isFile, content, inserted, saved], none⟩

/-- **Adding entries to resting files changes nothing.** -/
theorem addAllEntries_of_rests {files : List FilePath} (rests : ∀ file ∈ files,
      project.Rests tree file (registrations.filter fun registration => same registration.file file)) :
    ∃ reports, project.addAllEntries registrations tree files = (tree, .ok reports) ∧
      ∀ report ∈ reports, report.result ≠ .inserted := by
  induction files with
  | nil => exact ⟨[], rfl, by simp⟩
  | cons file rest ih =>
    obtain ⟨early, here, none⟩ := (rests file List.mem_cons_self).addEntries
    obtain ⟨late, others, more⟩ := ih fun other member => rests other (List.mem_cons_of_mem file member)
    exact ⟨early ++ late, addAllEntries_cons_ok.mpr ⟨tree, early, late, here, others, rfl⟩,
      fun report member => (List.mem_append.mp member).elim (none report) (more report)⟩

/-- The entries of a file are at rest whenever they were inserted into a text without carriage
returns. -/
def Settles (file : FilePath) (registrations : List Registration) : Prop :=
  ∀ before updated reports, '\x0d' ∉ before →
    insertAll file (SharedFile.ofText before) registrations = .ok (updated, reports) →
    AtRest updated.toText registrations

/-- A shared file holds no carriage returns. -/
def Clean (project : Project) (tree : Tree) (file : FilePath) : Prop :=
  ∀ location text, tree.locate project.start (project.pathOf file) = .ok location →
    tree.node? location = some (.file (.text text)) → '\x0d' ∉ text

/-- A file that is the same in another tree holds no carriage returns there. -/
theorem Clean.congr (clean : project.Clean tree file)
    (same : tree.SameFile changed project.start (project.pathOf file)) :
    project.Clean changed file := by
  intro location text reached there
  obtain ⟨before, here⟩ := (same location (.text text)).mpr ⟨reached, there⟩
  exact clean location text before here

/-- A file rests once its entries were added. -/
theorem rests_addEntries (writes : project.dryRun = false) (wellFormed : tree.WellFormed)
    (settles : Settles file registrations) (clean : project.Clean tree file)
    (done : project.addEntries tree file registrations = (changed, .ok reports)) :
    project.Rests changed file registrations := by
  have kept : tree.Extends changed := fun place =>
    (directory_iff_addEntries writes wellFormed done place).mpr
  obtain ⟨-, ⟨missing, rfl, -⟩ | ⟨location, before, updated, reached, there, inserted, after⟩⟩ :=
    addEntries_spec writes wellFormed done
  · exact .inl missing
  · have rest := settles before updated reports (clean location before reached there) inserted
    refine .inr ⟨location, updated.toText, kept.locate reached, ?_, rest⟩
    rcases after with ⟨same, rfl⟩ | ⟨-, replaces⟩
    · rw [same, there]
    · exact replaces.there

/-- Adding entries to other files leaves a shared file the same. -/
theorem sameFile_addAllEntries (writes : project.dryRun = false) {files : List FilePath}
    (wellFormed : tree.WellFormed) (shared : ∀ other ∈ files, plan.SharedPlace other)
    (own : plan.SharedPlace file) (apart : ∀ other ∈ files, same other file = false)
    (done : project.addAllEntries registrations tree files = (changed, .ok reports)) :
    tree.SameFile changed project.start (project.pathOf file) := by
  induction files generalizing tree reports with
  | nil =>
    obtain ⟨rfl, -⟩ := addAllEntries_nil_ok.mp done
    exact .refl _ _ _
  | cons other rest ih =>
    obtain ⟨middle, early, late, here, others, -⟩ := addAllEntries_cons_ok.mp done
    exact (sameFile_addEntries writes wellFormed (shared other List.mem_cons_self) own
      (apart other List.mem_cons_self) here).trans
      (ih (addEntries_spec writes wellFormed here).1
        (fun last member => shared last (List.mem_cons_of_mem other member))
        (fun last member => apart last (List.mem_cons_of_mem other member)) others)

/-- **All shared files rest once their entries were added.** -/
theorem rests_addAllEntries (writes : project.dryRun = false) {files : List FilePath}
    (wellFormed : tree.WellFormed) (shared : ∀ file ∈ files, plan.SharedPlace file)
    (distinct : files.Pairwise fun file other => same file other = false)
    (settles : ∀ file ∈ files,
      Settles file (registrations.filter fun registration => same registration.file file))
    (clean : ∀ file ∈ files, project.Clean tree file)
    (done : project.addAllEntries registrations tree files = (changed, .ok reports)) :
    ∀ file ∈ files, project.Rests changed file
      (registrations.filter fun registration => same registration.file file) := by
  induction files generalizing tree reports with
  | nil => simp
  | cons file rest ih =>
    obtain ⟨middle, early, late, here, others, -⟩ := addAllEntries_cons_ok.mp done
    obtain ⟨apart, distinctRest⟩ := List.pairwise_cons.mp distinct
    have whole := (addEntries_spec writes wellFormed here).1
    have own := shared file List.mem_cons_self
    have later := fun other member => shared other (List.mem_cons_of_mem file member)
    intro other member
    rcases List.mem_cons.mp member with rfl | member
    · refine (rests_addEntries writes wellFormed (settles other List.mem_cons_self)
        (clean other List.mem_cons_self) here).congr ?_
      refine sameFile_addAllEntries writes whole later own (fun last member => ?_) others
      have different := apart last member
      simp only [FilePath.same, beq_eq_false_iff_ne, ne_eq] at different ⊢
      exact fun equal => different equal.symm
    · exact ih whole later distinctRest
        (fun last member => settles last (List.mem_cons_of_mem file member))
        (fun last member => (clean last (List.mem_cons_of_mem file member)).congr
          (sameFile_addEntries writes wellFormed own (later last member) (apart last member) here))
        others other member

/-- Adding entries makes no shared file and removes none. -/
theorem isFile_addEntries (writes : project.dryRun = false) (wellFormed : tree.WellFormed)
    {other : FilePath} (shared : plan.SharedPlace file) (own : plan.SharedPlace other)
    (done : project.addEntries tree file registrations = (changed, .ok reports)) :
    changed.isFile project.start (project.pathOf other) =
      tree.isFile project.start (project.pathOf other) := by
  have directories := directory_iff_addEntries writes wellFormed done
  have kept : tree.Extends changed := fun place => (directories place).mpr
  have back : changed.Extends tree := fun place => (directories place).mp
  have files : ∀ place, tree.locate project.start (project.pathOf other) = .ok place →
      ((∃ content, changed.node? place = some (.file content)) ↔
        ∃ content, tree.node? place = some (.file content)) := by
    intro place leads
    obtain ⟨-, ⟨-, rfl, -⟩ | ⟨location, before, updated, reached, there, -,
      ⟨-, rfl⟩ | ⟨-, replaces⟩⟩⟩ := addEntries_spec writes wellFormed done
    · exact Iff.rfl
    · exact Iff.rfl
    · by_cases here : place = location
      · subst here
        exact ⟨fun _ => ⟨_, there⟩, fun _ => ⟨_, replaces.there⟩⟩
      · rw [replaces.elsewhere place here ?_]
        rintro rfl
        exact locate_backupPath_ne shared own leads (wellFormed.locate_backupPath reached there)
  rw [Bool.eq_iff_iff, isFile_iff, isFile_iff]
  constructor
  · rintro ⟨place, content, leads, there⟩
    obtain ⟨old, before⟩ := (files place (back.locate leads)).mp ⟨content, there⟩
    exact ⟨place, old, back.locate leads, before⟩
  · rintro ⟨place, content, leads, there⟩
    obtain ⟨new, after⟩ := (files place leads).mpr ⟨content, there⟩
    exact ⟨place, new, kept.locate leads, after⟩

/-- Adding entries file by file makes no shared file and removes none. -/
theorem isFile_addAllEntries (writes : project.dryRun = false) {files : List FilePath}
    (wellFormed : tree.WellFormed) (shared : ∀ file ∈ files, plan.SharedPlace file)
    {other : FilePath} (own : plan.SharedPlace other)
    (done : project.addAllEntries registrations tree files = (changed, .ok reports)) :
    changed.isFile project.start (project.pathOf other) =
      tree.isFile project.start (project.pathOf other) := by
  induction files generalizing tree reports with
  | nil =>
    obtain ⟨rfl, -⟩ := addAllEntries_nil_ok.mp done
    rfl
  | cons file rest ih =>
    obtain ⟨middle, early, late, here, others, -⟩ := addAllEntries_cons_ok.mp done
    rw [ih (addEntries_spec writes wellFormed here).1
      (fun last member => shared last (List.mem_cons_of_mem file member)) others,
      isFile_addEntries writes wellFormed (shared file List.mem_cons_self) own here]

/-- Adding entries makes no file, and removes none but copies. -/
theorem exists_addEntries_iff (writes : project.dryRun = false) (wellFormed : tree.WellFormed)
    {name : Text} (noCopy : ¬ (".bak" : Text) <:+ name) (parent : Location)
    (done : project.addEntries tree file registrations = (changed, .ok reports)) :
    changed.node? (parent ++ [name]) ≠ none ↔ tree.node? (parent ++ [name]) ≠ none := by
  obtain ⟨-, ⟨-, rfl, -⟩ | ⟨location, before, updated, reached, there, -,
    ⟨-, rfl⟩ | ⟨-, replaces⟩⟩⟩ := addEntries_spec writes wellFormed done
  · exact Iff.rfl
  · exact Iff.rfl
  · by_cases here : parent ++ [name] = location
    · rw [here, replaces.there, there]
      simp
    · rw [replaces.elsewhere _ here ?_]
      intro copy
      obtain ⟨-, equal⟩ := List.append_inj' copy rfl
      exact noCopy ⟨_, (List.cons.inj equal).1.symm⟩

/-- Adding entries file by file makes no file, and removes none but copies. -/
theorem exists_addAllEntries_iff (writes : project.dryRun = false) {files : List FilePath}
    (wellFormed : tree.WellFormed) {name : Text} (noCopy : ¬ (".bak" : Text) <:+ name)
    (parent : Location)
    (done : project.addAllEntries registrations tree files = (changed, .ok reports)) :
    changed.node? (parent ++ [name]) ≠ none ↔ tree.node? (parent ++ [name]) ≠ none := by
  induction files generalizing tree reports with
  | nil =>
    obtain ⟨rfl, -⟩ := addAllEntries_nil_ok.mp done
    exact Iff.rfl
  | cons file rest ih =>
    obtain ⟨middle, early, late, here, others, -⟩ := addAllEntries_cons_ok.mp done
    exact (ih (addEntries_spec writes wellFormed here).1 others).trans
      (exists_addEntries_iff writes wellFormed noCopy parent here)

/-- The name of a migration is not that of a copy. -/
theorem not_copy_of_migrationEnding {name : Text} (ends : Artifact.migrationEnding plan <:+ name) :
    ¬ (".bak" : Text) <:+ name := by
  rintro ⟨title, rfl⟩
  obtain ⟨lead, same⟩ := ends
  have copy : (title ++ (".bak" : Text)).getLast? = some 'k' := by
    have ending : (".bak" : Text).getLast? = some 'k' := by decide
    rw [List.getLast?_append, ending, Option.some_or]
  have migration : (lead ++ Artifact.migrationEnding plan).getLast? = some 'p' := by
    have ending : ("_table.php" : Text).getLast? = some 'p' := by decide
    have split : Artifact.migrationEnding plan =
        ('_' :: (("create_" : Text) ++ plan.names.table)) ++ ("_table.php" : Text) := rfl
    rw [split, ← List.append_assoc, List.getLast?_append, ending, Option.some_or]
  rw [same, copy] at migration
  exact absurd migration (by decide)

end Project

end Scaffold
