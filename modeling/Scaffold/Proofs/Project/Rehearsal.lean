import Scaffold.Proofs.Project.Rewriting

/-!
# Rehearsals

A rehearsal of an installation writes nothing (`fst_install_rehearsal`) and reports what the
installation itself does (`rehearsal_truthful`). The installation has written artifacts and other
shared files by the time it looks for a model or reads a shared file, but what it finds there is
what was there before (`sameFile_writeArtifacts`, `sameFile_addEntries`).
-/
namespace Scaffold

open FilePath

namespace Tree

variable {tree other : Tree} {start : Location} {path : FilePath}

/-- A path leads to the same file with the same content in two trees. -/
def SameFile (tree other : Tree) (start : Location) (path : FilePath) : Prop :=
  ∀ location content,
    tree.locate start path = .ok location ∧ tree.node? location = some (.file content) ↔
    other.locate start path = .ok location ∧ other.node? location = some (.file content)

/-- A path leads to the same file in a tree itself. -/
theorem SameFile.refl (tree : Tree) (start : Location) (path : FilePath) :
    tree.SameFile tree start path := fun _ _ => Iff.rfl

/-- What is the same file in a tree and a second one, and there and in a third one, is the same. -/
theorem SameFile.trans {last : Tree} (first : tree.SameFile other start path)
    (second : other.SameFile last start path) : tree.SameFile last start path :=
  fun location content => (first location content).trans (second location content)

/-- A path leads to a file in both trees or in none. -/
theorem SameFile.isFile_eq (same : tree.SameFile other start path) :
    tree.isFile start path = other.isFile start path := by
  rw [Bool.eq_iff_iff, isFile_iff, isFile_iff]
  exact exists_congr fun location => exists_congr fun content => same location content

end Tree

namespace Project

open Scaffold.Tree

variable {project : Project} {tree changed : Tree} {moment : Moment} {plan : Plan}

/-- The project in which nothing is written. -/
def rehearsal (project : Project) : Project := { project with dryRun := true }

/-- A rehearsal writes no artifact. -/
theorem writeArtifact_rehearsal (tree : Tree) (file : FilePath) (content : Text) :
    project.rehearsal.writeArtifact tree file content = (tree, .ok ()) := rfl

/-- A rehearsal of writing artifacts leaves the tree as it was. -/
theorem fst_writeArtifacts_rehearsal (moment : Moment) (tree : Tree) (files : List OutputFile) :
    (project.rehearsal.writeArtifacts moment tree files).1 = tree := by
  induction files with
  | nil => rfl
  | cons file rest ih =>
    rw [writeArtifacts]
    cases project.rehearsal.target tree moment file with
    | error failure => rfl
    | ok path =>
      simp only [writeArtifact_rehearsal]
      split
      · rename_i stopped
        rwa [stopped] at ih
      · rename_i done
        rwa [done] at ih

/-- A rehearsal of adding entries to a file leaves the tree as it was. -/
theorem fst_addEntries_rehearsal (tree : Tree) (file : FilePath)
    (registrations : List Registration) :
    (project.rehearsal.addEntries tree file registrations).1 = tree := by
  have dry : project.rehearsal.dryRun = true := rfl
  unfold addEntries
  simp only [dry, Bool.or_true, ↓reduceIte]
  split
  · rfl
  · split
    · rfl
    · split <;> rfl

/-- A rehearsal of adding entries file by file leaves the tree as it was. -/
theorem fst_addAllEntries_rehearsal (registrations : List Registration) (tree : Tree)
    (files : List FilePath) :
    (project.rehearsal.addAllEntries registrations tree files).1 = tree := by
  induction files with
  | nil => rfl
  | cons file rest ih =>
    have here := @fst_addEntries_rehearsal project tree file
      (registrations.filter fun registration => FilePath.same registration.file file)
    rw [addAllEntries]
    split
    · rename_i stopped
      rwa [stopped] at here
    · rename_i done
      rw [done] at here
      simp only at here
      rw [here]
      split
      · rename_i stopped
        rwa [stopped] at ih
      · rename_i all
        rwa [all] at ih

/-- A rehearsal leaves the tree as it was, whatever comes out. -/
theorem fst_install_rehearsal (moment : Moment) (plan : Plan) (output : Output) (tree : Tree) :
    (project.rehearsal.install moment plan output tree).1 = tree := by
  have wrote := @fst_writeArtifacts_rehearsal project moment tree output.files
  unfold install
  split
  · rename_i stopped
    rwa [stopped] at wrote
  · rename_i done
    rw [done] at wrote
    simp only at wrote
    rw [wrote]
    have added := @fst_addAllEntries_rehearsal project
      (project.rehearsal.pending tree plan) tree
      (distinctFiles ((project.rehearsal.pending tree plan).map (·.file)))
    simp only
    split
    · rename_i stopped
      rwa [stopped] at added
    · rename_i all
      rwa [all] at added

/-- Files that are no migrations keep their own paths in a rehearsal. -/
theorem writeArtifacts_rehearsal_of_none {files : List OutputFile}
    (none : ∀ file ∈ files, file.artifact ≠ .migration) (moment : Moment) (tree : Tree) :
    project.rehearsal.writeArtifacts moment tree files = (tree, .ok (files.map (·.path))) := by
  induction files with
  | nil => rfl
  | cons file rest ih =>
    have aimed : project.rehearsal.target tree moment file = .ok file.path := by
      rw [target, if_neg (none file List.mem_cons_self)]
    exact writeArtifacts_cons_ok.mpr ⟨_, tree, _, aimed, writeArtifact_rehearsal tree _ _,
      ih fun other member => none other (List.mem_cons_of_mem file member), rfl⟩

/-- A rehearsal gives the paths that the artifacts are written to. The migration comes first, so its
name is looked for in the tree as it was. -/
theorem writeArtifacts_rehearsal {files : List OutputFile}
    (single : ∀ other ∈ files.tail, other.artifact ≠ .migration) {written : List FilePath}
    (done : project.writeArtifacts moment tree files = (changed, .ok written)) :
    project.rehearsal.writeArtifacts moment tree files = (tree, .ok written) := by
  cases files with
  | nil =>
    obtain ⟨-, rfl⟩ : tree = changed ∧ [] = written := by simpa [writeArtifacts] using done
    rfl
  | cons file rest =>
    obtain ⟨path, middle, later, aimed, -, others, rfl⟩ := writeArtifacts_cons_ok.mp done
    obtain rfl := written_eq_map single others
    exact writeArtifacts_cons_ok.mpr ⟨path, tree, _, aimed, writeArtifact_rehearsal tree _ _,
      writeArtifacts_rehearsal_of_none single moment tree, rfl⟩

/-- A shared file is the same before and after artifacts were written. -/
theorem sameFile_writeArtifacts (writes : project.dryRun = false) (wellFormed : tree.WellFormed)
    (begins : tree.node? project.start = some .directory)
    (climbs : tree.Climbs project.start project.root) (plain : plan.Plain)
    {files : List OutputFile} (own : ∀ file ∈ files, file.path = file.artifact.path plan)
    {written : List FilePath}
    (done : project.writeArtifacts moment tree files = (changed, .ok written)) {file : FilePath}
    (shared : plan.SharedPlace file) :
    tree.SameFile changed project.start (project.pathOf file) := by
  obtain ⟨-, kept, all, rfl, -, places, -, blank⟩ :=
    writeArtifacts_spec writes wellFormed begins done
  obtain ⟨front, name, split, isName, -, -⟩ := shared.place
  -- No artifact is written where a shared file lies.
  have apart : ∀ {location}, changed.locate project.start (project.pathOf file) = .ok location →
      Written.contentAt? all location = none := by
    intro location reached
    rw [Written.contentAt?_eq_none]
    rintro artifact member rfl
    obtain ⟨source, -, place⟩ := artifactPlace_of_mem_written plain own done artifact.path
      (List.mem_map_of_mem member)
    exact locate_ne_of_places place shared reached (places artifact member).1
  intro location content
  constructor
  · rintro ⟨reached, there⟩
    have later := kept.locate reached
    rcases blank location (apart later) with same | ⟨missing, -⟩
    · exact ⟨later, by rw [same, there]⟩
    · rw [there] at missing
      exact absurd missing (by simp)
  · rintro ⟨reached, there⟩
    rcases blank location (apart reached) with same | ⟨-, directory⟩
    · rw [same] at there
      exact ⟨locate_of_there wellFormed begins climbs kept shared.straight split isName reached
        (by rw [there]; simp), there⟩
    · rw [there] at directory
      exact absurd directory (by simp)

/-- A shared file is the same before and after entries were added to another one. -/
theorem sameFile_addEntries (writes : project.dryRun = false) (wellFormed : tree.WellFormed)
    {file other : FilePath} (shared : plan.SharedPlace file) (sharedOther : plan.SharedPlace other)
    (distinct : FilePath.same file other = false) {registrations : List Registration}
    {reports : List EntryReport}
    (done : project.addEntries tree file registrations = (changed, .ok reports)) :
    tree.SameFile changed project.start (project.pathOf other) := by
  have directories := directory_iff_addEntries writes wellFormed done
  have kept : tree.Extends changed := fun place => (directories place).mpr
  have back : changed.Extends tree := fun place => (directories place).mp
  have unchanged : ∀ {location}, tree.locate project.start (project.pathOf other) = .ok location →
      changed.node? location = tree.node? location := by
    intro location reached
    refine addEntries_frame writes wellFormed done (fun again => ?_) fun copied => ?_
    · rw [same_of_locate shared sharedOther again reached] at distinct
      exact absurd distinct (by simp)
    · exact locate_backupPath_ne shared sharedOther reached copied
  intro location content
  constructor
  · rintro ⟨reached, there⟩
    exact ⟨kept.locate reached, by rw [unchanged reached, there]⟩
  · rintro ⟨reached, there⟩
    have before := back.locate reached
    exact ⟨before, by rw [← unchanged before, there]⟩

/-- A rehearsal of adding entries to a file that is the same gives the same report. -/
theorem addEntries_rehearsal (writes : project.dryRun = false) {first : Tree}
    (wellFormed : tree.WellFormed) {file : FilePath}
    (same : first.SameFile tree project.start (project.pathOf file))
    {registrations : List Registration} {reports : List EntryReport}
    (done : project.addEntries tree file registrations = (changed, .ok reports)) :
    project.rehearsal.addEntries first file registrations = (first, .ok reports) := by
  have path : project.rehearsal.pathOf file = project.pathOf file := rfl
  have start : project.rehearsal.start = project.start := rfl
  have dry : project.rehearsal.dryRun = true := rfl
  obtain ⟨-, ⟨missing, -, rfl⟩ | ⟨location, before, updated, reached, there, inserted, -⟩⟩ :=
    addEntries_spec writes wellFormed done
  · rw [← same.isFile_eq] at missing
    simp [addEntries, path, start, missing]
  · have found := (same location (.text before)).mpr ⟨reached, there⟩
    have isFile : first.isFile project.start (project.pathOf file) = true :=
      isFile_iff.mpr ⟨location, _, found⟩
    have text : first.readText project.start (project.pathOf file) = .ok before :=
      readText_ok.mpr ⟨location, found⟩
    simp [addEntries, path, start, dry, isFile, text, inserted]

/-- A rehearsal of adding entries file by file gives the same report. -/
theorem addAllEntries_rehearsal (writes : project.dryRun = false) {first : Tree}
    (wellFormed : tree.WellFormed) {files : List FilePath}
    (shared : ∀ file ∈ files, plan.SharedPlace file)
    (distinct : files.Pairwise fun file other => FilePath.same file other = false)
    (same : ∀ file ∈ files, first.SameFile tree project.start (project.pathOf file))
    {registrations : List Registration} {reports : List EntryReport}
    (done : project.addAllEntries registrations tree files = (changed, .ok reports)) :
    project.rehearsal.addAllEntries registrations first files = (first, .ok reports) := by
  induction files generalizing tree reports with
  | nil =>
    obtain ⟨-, rfl⟩ := addAllEntries_nil_ok.mp done
    rfl
  | cons file rest ih =>
    obtain ⟨middle, early, late, here, others, rfl⟩ := addAllEntries_cons_ok.mp done
    obtain ⟨apart, distinctRest⟩ := List.pairwise_cons.mp distinct
    refine addAllEntries_cons_ok.mpr ⟨first, early, late,
      addEntries_rehearsal writes wellFormed (same file List.mem_cons_self) here,
      ih (addEntries_spec writes wellFormed here).1
        (fun other member => shared other (List.mem_cons_of_mem file member)) distinctRest
        (fun other member => ?_) others, rfl⟩
    exact (same other (List.mem_cons_of_mem file member)).trans
      (sameFile_addEntries writes wellFormed (shared file List.mem_cons_self)
        (shared other (List.mem_cons_of_mem file member)) (apart other member) here)

/-- The file of a model is found where the files that it is looked for in are there as before. -/
theorem accessorFile?_eq {accessor : ReverseAccessor} (same : ∀ candidate ∈
      plan.modelCandidates project.layout accessor.target,
      changed.isFile project.start (project.pathOf candidate) =
        tree.isFile project.start (project.pathOf candidate)) :
    project.accessorFile? changed plan accessor = project.accessorFile? tree plan accessor := by
  unfold accessorFile?
  generalize plan.modelCandidates project.layout accessor.target = candidates at same
  induction candidates with
  | nil => rfl
  | cons candidate rest ih =>
    rw [List.find?_cons, List.find?_cons, same candidate List.mem_cons_self,
      ih fun other member => same other (List.mem_cons_of_mem candidate member)]

/-- The pending entries are those for which the same files of models are found. -/
theorem pending_eq (models : ∀ accessor ∈ plan.accessors,
      project.accessorFile? changed plan accessor = project.accessorFile? tree plan accessor) :
    project.pending changed plan = project.pending tree plan := by
  unfold Project.pending accessorEntries
  congr 1
  generalize plan.accessors = accessors at models
  induction accessors with
  | nil => rfl
  | cons accessor rest ih =>
    rw [List.filterMap_cons, List.filterMap_cons, models accessor List.mem_cons_self,
      ih fun other member => models other (List.mem_cons_of_mem accessor member)]

/-- The accessors without files are those for which the same files of models are found. -/
theorem accessorWarnings_eq (models : ∀ accessor ∈ plan.accessors,
      project.accessorFile? changed plan accessor = project.accessorFile? tree plan accessor) :
    project.accessorWarnings changed plan = project.accessorWarnings tree plan := by
  unfold accessorWarnings
  rw [List.filter_congr fun accessor listed => by rw [models accessor listed]]

/-- **A rehearsal tells the truth and touches nothing.** Where every step up in the root of the
project starts from a directory that is there, it leaves the tree as it was, and whenever the
installation succeeds it gives the same report. -/
theorem rehearsal_truthful (options : Options) (standard : project.layout = .standard)
    (targets : ∀ relationship ∈ (Plan.ofOptions options).relationships,
      '/' ∉ relationship.target)
    (wellFormed : tree.WellFormed) (begins : tree.node? project.start = some .directory)
    (climbs : tree.Climbs project.start project.root) (source : TemplateSource) (templates : Tree)
    (place : Location) (moment : Moment) :
    (project.rehearsal.install moment (Plan.ofOptions options)
      ((Plan.ofOptions options).output source templates place) tree).1 = tree ∧
    ∀ changed report, project.install moment (Plan.ofOptions options)
        ((Plan.ofOptions options).output source templates place) tree = (changed, .ok report) →
      project.rehearsal.install moment (Plan.ofOptions options)
        ((Plan.ofOptions options).output source templates place) tree = (tree, .ok report) := by
  have plain := Plan.plain_ofOptions options
  generalize Plan.ofOptions options = plan at targets plain ⊢
  refine ⟨fst_install_rehearsal moment plan _ tree, fun changed report done => ?_⟩
  by_cases writes : project.dryRun = false
  · obtain ⟨middle, written, reports, wrote, added, rfl⟩ := install_ok.mp done
    have own : ∀ file ∈ (plan.output source templates place).files,
        file.path = file.artifact.path plan := fun file => Plan.path_of_mem_output
    have same : ∀ {file : FilePath}, plan.SharedPlace file →
        tree.SameFile middle project.start (project.pathOf file) :=
      sameFile_writeArtifacts writes wellFormed begins climbs plain own wrote
    have models : ∀ accessor ∈ plan.accessors, project.accessorFile? middle plan accessor =
        project.accessorFile? tree plan accessor := fun accessor listed =>
      accessorFile?_eq fun candidate found =>
        (same (sharedPlace_of_candidate plain standard targets listed found)).isFile_eq.symm
    rw [pending_eq models] at added
    rw [accessorWarnings_eq models]
    have whole := (writeArtifacts_spec writes wellFormed begins wrote).1
    have shared : ∀ file ∈ distinctFiles ((project.pending tree plan).map (·.file)),
        plan.SharedPlace file := fun file =>
      sharedPlace_of_mem_distinctFiles plain standard targets
    exact install_ok.mpr ⟨tree, written, reports,
      writeArtifacts_rehearsal (fun _ => Plan.migration_first) wrote,
      addAllEntries_rehearsal writes whole shared (pairwise_distinctFiles _)
        (fun file member => same (shared file member)) added, rfl⟩
  · have already : project.rehearsal = project := by
      simp only [Bool.not_eq_false] at writes
      rw [rehearsal, ← writes]
    have still := @fst_install_rehearsal project moment plan
      (plan.output source templates place) tree
    rw [already, done] at still
    rw [already, done]
    exact congrArg (·, _) still

/-- A directory with a template of migrations only. -/
def migrationStub : Tree :=
  ⟨[(["stubs"], .directory), (["stubs", "migration.php.stub"], .file (.text "<?php\n"))]⟩

/-- What an installation of valves reports where only the file of routes is there and only the
migration is written. -/
def migrationReport (result : EntryResult) : Report :=
  { routesReport result with
    written := ["database/migrations/2026_01_01_000000_create_valves_table.php"] }

/-- A project of the standard layout with another root. -/
def projectAt (root : FilePath) : Project := { standardProject with root }

/-- The output for valves, from a directory with a template of migrations only. -/
def valveOutput : Output :=
  (Plan.ofOptions { displayName := "Valve" }).output (.directory "stubs") migrationStub []

/-- Its only file is the migration. -/
theorem files_valveOutput : valveOutput.files =
    [⟨.migration, "database/migrations/create_valves_table.php", "<?php\n"⟩] := by
  unfold valveOutput migrationStub
  simp (disch := exact rfl) only [Text.toList_literal, -String.reduceToList]
  decide +kernel

/-- The rehearsal of an installation of valves, in a project whose root is written with a step up. -/
theorem rehearsal_truthful_valves :
    ((projectAt "routes/..").install ⟨2026, 1, 1, 0, 0, 0⟩
        (Plan.ofOptions { displayName := "Valve" }) valveOutput (routesOnly plainRoutes)).2 =
          .ok (migrationReport .inserted) ∧
      (projectAt "routes/..").rehearsal.install ⟨2026, 1, 1, 0, 0, 0⟩
        (Plan.ofOptions { displayName := "Valve" }) valveOutput (routesOnly plainRoutes) =
          (routesOnly plainRoutes, .ok (migrationReport .inserted)) := by
  have done : ((projectAt "routes/..").install ⟨2026, 1, 1, 0, 0, 0⟩
      (Plan.ofOptions { displayName := "Valve" }) valveOutput (routesOnly plainRoutes)).2 =
        .ok (migrationReport .inserted) := by
    rw [install_valves rfl, files_valveOutput]
    unfold projectAt standardProject routesOnly plainRoutes migrationReport routesReport
      valveEntries defaultIcon
    simp (disch := exact rfl) only [Text.toList_literal, -String.reduceToList]
    decide +kernel
  have truthful := @rehearsal_truthful (projectAt "routes/..") (routesOnly plainRoutes)
    { displayName := "Valve" } rfl (by decide +kernel) (by decide +kernel) rfl (by decide +kernel)
    (.directory "stubs") migrationStub [] ⟨2026, 1, 1, 0, 0, 0⟩
  rw [← valveOutput] at truthful
  refine ⟨done, ?_⟩
  generalize (projectAt "routes/..").install ⟨2026, 1, 1, 0, 0, 0⟩
    (Plan.ofOptions { displayName := "Valve" }) valveOutput (routesOnly plainRoutes) = result
    at done truthful
  obtain ⟨changed, answer⟩ := result
  obtain rfl : answer = .ok (migrationReport .inserted) := done
  exact truthful.2 changed _ rfl

/-- Where the root goes up from a directory that is missing, the installation makes that directory
and then finds the file of routes. The rehearsal does not find it. -/
theorem rehearsal_without_directory :
    ((projectAt "fresh/..").install ⟨2026, 1, 1, 0, 0, 0⟩
        (Plan.ofOptions { displayName := "Valve" }) valveOutput (routesOnly plainRoutes)).2 =
          .ok (migrationReport .inserted) ∧
      ((projectAt "fresh/..").rehearsal.install ⟨2026, 1, 1, 0, 0, 0⟩
        (Plan.ofOptions { displayName := "Valve" }) valveOutput (routesOnly plainRoutes)).2 =
          .ok (migrationReport .fileNotFound) := by
  rw [install_valves rfl, install_valves rfl, files_valveOutput]
  unfold projectAt standardProject routesOnly plainRoutes migrationReport routesReport valveEntries
    defaultIcon
  simp (disch := exact rfl) only [Text.toList_literal, -String.reduceToList]
  decide +kernel

end Project

end Scaffold
