import Scaffold.Proofs.Project.Splicing

/-!
# Shared files of a project

Adding entries file by file reports about every file (`exists_report`), leaves alone what no file of
the list and no copy leads to (`addAllEntries_frame`), and makes of the text of every file what the
insertions of its own entries make of it (`addAllEntries_text`).
-/
namespace Scaffold

/-- The file of a model is always looked for among the models of the application. -/
theorem Plan.modelFile_mem_modelCandidates (plan : Plan) (layout : Layout) (model : Text) :
    FilePath.join layout.models (modelFile model) ∈ plan.modelCandidates layout model := by
  unfold modelCandidates
  simp only
  split <;> simp

namespace Project

open Scaffold.Tree

variable {project : Project} {tree changed : Tree} {location : Location}
  {registrations : List Registration} {reports : List EntryReport}

/-- The reports about a file are about its entries in their order. -/
theorem map_addEntries {file : FilePath}
    (done : project.addEntries tree file registrations = (changed, .ok reports)) :
    reports.map (fun report => (report.file, report.key)) =
      registrations.map fun registration => (file, registration.entry.key) := by
  unfold addEntries at done
  simp only at done
  split at done
  · obtain rfl := Except.ok.inj (Prod.mk.inj done).2
    rw [List.map_map]
    rfl
  · split at done
    · simp at done
    · split at done
      · simp at done
      · rename_i inserted
        -- The reports are those of the insertions, whether or not the file is written.
        split at done
        · obtain rfl := Except.ok.inj (Prod.mk.inj done).2
          exact map_insertAll inserted
        · split at done
          · simp at done
          · obtain rfl := Except.ok.inj (Prod.mk.inj done).2
            exact map_insertAll inserted

/-- Adding entries file by file keeps a tree well formed and changes no directory. -/
theorem addAllEntries_wellFormed (writes : project.dryRun = false) {files : List FilePath}
    (wellFormed : tree.WellFormed)
    (done : project.addAllEntries registrations tree files = (changed, .ok reports)) :
    changed.WellFormed ∧ ∀ place,
      changed.node? place = some .directory ↔ tree.node? place = some .directory := by
  induction files generalizing tree reports with
  | nil =>
    obtain ⟨rfl, -⟩ := addAllEntries_nil_ok.mp done
    exact ⟨wellFormed, fun _ => Iff.rfl⟩
  | cons file rest ih =>
    obtain ⟨middle, first, later, here, others, -⟩ := addAllEntries_cons_ok.mp done
    obtain ⟨whole, -⟩ := addEntries_spec writes wellFormed here
    obtain ⟨last, same⟩ := ih whole others
    exact ⟨last, fun place =>
      (same place).trans (directory_iff_addEntries writes wellFormed here place)⟩

/-- Every file with entries is reported about. -/
theorem exists_report {files : List FilePath}
    (done : project.addAllEntries registrations tree files = (changed, .ok reports))
    {file : FilePath} (member : file ∈ files)
    (wanted : ∃ registration ∈ registrations, FilePath.same registration.file file = true) :
    ∃ report ∈ reports, report.file = file := by
  induction files generalizing tree reports with
  | nil => simp at member
  | cons head rest ih =>
    obtain ⟨middle, first, later, here, others, rfl⟩ := addAllEntries_cons_ok.mp done
    rcases List.mem_cons.mp member with rfl | further
    · obtain ⟨registration, listed, same⟩ := wanted
      have reported := map_addEntries here
      have own : (file, registration.entry.key) ∈
          first.map fun report => (report.file, report.key) := by
        rw [reported]
        exact List.mem_map.mpr ⟨registration, List.mem_filter.mpr ⟨listed, same⟩, rfl⟩
      obtain ⟨report, inside, about⟩ := List.mem_map.mp own
      exact ⟨report, List.mem_append_left _ inside, congrArg Prod.fst about⟩
    · obtain ⟨report, inside, about⟩ := ih others further
      exact ⟨report, List.mem_append_right _ inside, about⟩

/-- Every report is about one of the files. -/
theorem file_of_mem_reports {files : List FilePath}
    (done : project.addAllEntries registrations tree files = (changed, .ok reports))
    {report : EntryReport} (member : report ∈ reports) : report.file ∈ files := by
  induction files generalizing tree reports with
  | nil =>
    obtain ⟨-, rfl⟩ := addAllEntries_nil_ok.mp done
    simp at member
  | cons head rest ih =>
    obtain ⟨middle, first, later, here, others, rfl⟩ := addAllEntries_cons_ok.mp done
    rcases List.mem_append.mp member with early | late
    · have reported := map_addEntries here
      have own : (report.file, report.key) ∈ first.map fun report => (report.file, report.key) :=
        List.mem_map.mpr ⟨report, early, rfl⟩
      rw [reported] at own
      obtain ⟨registration, -, same⟩ := List.mem_map.mp own
      have named : head = report.file := congrArg Prod.fst same
      rw [← named]
      exact List.mem_cons_self
    · exact List.mem_cons_of_mem head (ih others late)

/-- What a file does not lead to, nor its copy, stays as it was when entries are added to it. -/
theorem addEntries_frame (writes : project.dryRun = false) (wellFormed : tree.WellFormed)
    {file : FilePath} (done : project.addEntries tree file registrations = (changed, .ok reports))
    (apart : tree.locate project.start (project.pathOf file) ≠ .ok location)
    (noCopy : tree.locate project.start (backupPath (project.pathOf file)) ≠ .ok location) :
    changed.node? location = tree.node? location := by
  obtain ⟨-, ⟨-, rfl, -⟩ | ⟨place, before, updated, reached, there, -,
    ⟨-, rfl⟩ | ⟨-, replaces⟩⟩⟩ := addEntries_spec writes wellFormed done
  · rfl
  · rfl
  · apply replaces.elsewhere
    · rintro rfl
      exact apart reached
    · rintro rfl
      exact noCopy (wellFormed.locate_backupPath reached there)

/-- What no file leads to, nor a copy, stays as it was. -/
theorem addAllEntries_frame (writes : project.dryRun = false) {files : List FilePath}
    (wellFormed : tree.WellFormed)
    (done : project.addAllEntries registrations tree files = (changed, .ok reports))
    (apart : ∀ file ∈ files, changed.locate project.start (project.pathOf file) ≠ .ok location)
    (noCopy : ∀ file ∈ files,
      changed.locate project.start (backupPath (project.pathOf file)) ≠ .ok location) :
    changed.node? location = tree.node? location := by
  induction files generalizing tree reports with
  | nil =>
    obtain ⟨rfl, -⟩ := addAllEntries_nil_ok.mp done
    rfl
  | cons file rest ih =>
    obtain ⟨-, same⟩ := addAllEntries_wellFormed writes wellFormed done
    have kept : tree.Extends changed := fun place => (same place).mpr
    obtain ⟨middle, first, later, here, others, -⟩ := addAllEntries_cons_ok.mp done
    rw [ih (addEntries_spec writes wellFormed here).1 others
      (fun other member => apart other (List.mem_cons_of_mem file member))
      (fun other member => noCopy other (List.mem_cons_of_mem file member))]
    exact addEntries_frame writes wellFormed here
      (fun reached => apart file List.mem_cons_self (kept.locate reached))
      (fun reached => noCopy file List.mem_cons_self (kept.locate reached))

/-- **What becomes of a shared file.** If it is the only file of the list that leads to its place,
and no copy leads there, it is a text and becomes what the insertions of its own entries make of
it. -/
theorem addAllEntries_text (writes : project.dryRun = false) {files : List FilePath}
    (wellFormed : tree.WellFormed)
    (distinct : files.Pairwise fun file other => FilePath.same file other = false)
    (done : project.addAllEntries registrations tree files = (changed, .ok reports))
    {file : FilePath} (member : file ∈ files) {content : FileContent}
    (there : tree.node? location = some (.file content))
    (leads : changed.locate project.start (project.pathOf file) = .ok location)
    (single : ∀ other ∈ files, changed.locate project.start (project.pathOf other) = .ok location →
      FilePath.same other file = true)
    (noCopy : ∀ other ∈ files,
      changed.locate project.start (backupPath (project.pathOf other)) ≠ .ok location) :
    ∃ before updated own, content = .text before ∧ insertAll file (SharedFile.ofText before)
        (registrations.filter fun registration => FilePath.same registration.file file) =
        .ok (updated, own) ∧ (∀ report ∈ own, report ∈ reports) ∧
      changed.node? location = some (.file (.text updated.toText)) := by
  induction files generalizing tree reports with
  | nil => simp at member
  | cons head rest ih =>
    obtain ⟨-, same⟩ := addAllEntries_wellFormed writes wellFormed done
    have kept : tree.Extends changed := fun place => (same place).mpr
    have back : changed.Extends tree := fun place => (same place).mp
    obtain ⟨middle, first, later, here, others, rfl⟩ := addAllEntries_cons_ok.mp done
    obtain ⟨apart, distinctRest⟩ := List.pairwise_cons.mp distinct
    obtain ⟨whole, cases⟩ := addEntries_spec writes wellFormed here
    have noCopyRest := fun other inside => noCopy other (List.mem_cons_of_mem head inside)
    by_cases own : head = file
    · subst own
      have aloneRest : ∀ other ∈ rest,
          changed.locate project.start (project.pathOf other) ≠ .ok location := by
        intro other inside reached
        have one := single other (List.mem_cons_of_mem head inside) reached
        have two := apart other inside
        simp only [FilePath.same, beq_iff_eq, beq_eq_false_iff_ne] at one two
        exact two one.symm
      have rested := addAllEntries_frame writes whole others aloneRest noCopyRest
      have reached := back.locate leads
      rcases cases with ⟨missing, -⟩ | ⟨place, text, updated, again, found, inserted, effect⟩
      · have isFile := isFile_iff.mpr ⟨location, _, reached, there⟩
        rw [missing] at isFile
        exact absurd isFile (by simp)
      · obtain rfl : location = place := by
          rw [reached, Except.ok.injEq] at again
          exact again
        obtain rfl : content = .text text := by
          rw [there] at found
          simpa using found
        refine ⟨text, updated, first, rfl, inserted, fun report => List.mem_append_left _, ?_⟩
        rw [rested]
        rcases effect with ⟨unchanged, rfl⟩ | ⟨-, replaces⟩
        · rw [unchanged, there]
        · exact replaces.there
    · have further : file ∈ rest := by
        rcases List.mem_cons.mp member with rfl | further
        · exact absurd rfl own
        · exact further
      have frame : middle.node? location = tree.node? location := addEntries_frame writes
        wellFormed here
        (fun reached => by
          have one := single head List.mem_cons_self (kept.locate reached)
          rw [apart file further] at one
          exact absurd one (by simp))
        (fun reached => noCopy head List.mem_cons_self (kept.locate reached))
      obtain ⟨before, updated, reported, rfl, inserted, among, text⟩ := ih whole distinctRest
        others further
        (by rw [frame, there]) (fun other inside => single other (List.mem_cons_of_mem head inside))
        noCopyRest
      exact ⟨before, updated, reported, rfl, inserted,
        fun report inside => List.mem_append_right _ (among report inside), text⟩

/-- An installation writes the artifacts and then adds the pending entries. -/
theorem install_ok {moment : Moment} {plan : Plan} {output : Output} {report : Report} :
    project.install moment plan output tree = (changed, .ok report) ↔ ∃ middle written reports,
      project.writeArtifacts moment tree output.files = (middle, .ok written) ∧
      project.addAllEntries (project.pending middle plan) middle
        (distinctFiles ((project.pending middle plan).map (·.file))) = (changed, .ok reports) ∧
      report = ⟨written, project.accessorWarnings middle plan ++ reports⟩ := by
  unfold install
  rcases wrote : project.writeArtifacts moment tree output.files
    with ⟨middle, failure | written⟩
  · simp
  · simp only
    rcases added : project.addAllEntries (project.pending middle plan) middle
      (distinctFiles ((project.pending middle plan).map (·.file)))
      with ⟨last, failure | reports⟩
    · simp only [added, Prod.mk.injEq, reduceCtorEq, and_false, false_iff, not_exists]
      rintro _ _ more ⟨⟨rfl, -⟩, again, -⟩
      rw [added] at again
      exact absurd (Prod.mk.inj again).2 (by simp)
    · simp only [added, Prod.mk.injEq, Except.ok.injEq]
      constructor
      · rintro ⟨rfl, rfl⟩
        exact ⟨middle, written, reports, ⟨rfl, rfl⟩, added, rfl⟩
      · rintro ⟨_, _, more, ⟨rfl, rfl⟩, again, rfl⟩
        rw [added] at again
        obtain ⟨rfl, same⟩ := Prod.mk.inj again
        rw [Except.ok.injEq] at same
        exact ⟨rfl, by rw [same]⟩

end Project

end Scaffold
