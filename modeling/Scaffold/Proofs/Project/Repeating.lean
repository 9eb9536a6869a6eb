import Scaffold.Proofs.Project.Placement
import Scaffold.Proofs.Project.Resting
import Scaffold.Proofs.Registry.Navigation

/-!
# Installing once more

The entries of a shared file are those of the navigation or share the region and the anchor of their
file (`Registers.cases`). Either way they are at rest after their insertion (`settles_pending`), the
artifacts are written as they were, the migration under the name that it has, and so installing a
module once more changes nothing (`install_again`).

The migration keeps its name in any layout, whatever becomes of the shared files
(`install_keeps_migration`).
-/
namespace Scaffold

open FilePath

namespace Project

open SharedFile Plan

variable {project : Project} {tree : Tree} {plan : Plan} {file : FilePath}

/-- **The entries of a file are at rest after their insertion.** -/
theorem settles_pending (wirable : plan.Wirable) (standard : project.layout = .standard)
    (targets : ∀ relationship ∈ plan.relationships, '/' ∉ relationship.target)
    (straight : Straight file) :
    Settles file ((project.pending tree plan).filter fun registration =>
      same registration.file file) := by
  have registers : ∀ registration ∈ project.pending tree plan,
      plan.Registers .standard registration := by
    intro registration member
    rw [← standard]
    exact registers_of_mem_pending member
  intro before updated reports clean done
  by_cases here : same project.layout.navigation file = true
  · have navigation : ∀ registration : Registration,
        same registration.file file = same registration.file project.layout.navigation := by
      intro registration
      unfold same at here ⊢
      rw [beq_iff_eq.mp here]
    have alone := navigatesAlone wirable.toDerived standard targets
    simp only [navigation] at done ⊢
    rw [alone.filter_eq] at done ⊢
    exact atRest_navigation wirable clean done
  · have own : ∀ registration ∈ (project.pending tree plan).filter fun registration =>
        same registration.file file,
        plan.Registers .standard registration ∧
          (registration.region, registration.anchor) =
            regionAt (activeNames (namesOf file)) := by
      intro registration member
      obtain ⟨pending, equal⟩ := List.mem_filter.mp member
      have made := registers registration pending
      refine ⟨made, ?_⟩
      rcases made.cases targets with rfl | rfl | placed
      · exact absurd equal (standard ▸ here)
      · exact absurd equal (standard ▸ here)
      · have straightOwn := (made.sharedPlace wirable.plain targets).straight
        rw [← (straightOwn.same_iff straight).mp equal, placed.2]
    refine @atRest_insertAll _ _ _ _ _ (regionAt (activeNames (namesOf file))).2
      (tidy_regionAt (activeNames (namesOf file))) (fun registration member => ?_)
      (fun registration member => ?_) (fun registration member => ?_)
      (fun registration member => ?_) _ clean done
    · rw [← (own registration member).2]
      exact ⟨rfl, rfl⟩
    · have sound := (own registration member).1.sound wirable
      exact ⟨sound.evident, sound.presence⟩
    · exact (own registration member).1.anchor_mem
    · exact ((own registration member).1.sound wirable).legal

/-- **Installing a module once more changes nothing.** In a project of the standard layout whose root
is read as it is written and goes up from directories that are there, an installation that succeeded
succeeds again: it inserts no entry, writes the same paths, whatever the clock says, and leaves every
file as it was. The relationships and the shared files are written without carriage returns, and the
icon is one line. -/
theorem install_again (options : Options) (standard : project.layout = .standard)
    (writes : project.dryRun = false) (clean : '\x0d' ∉ options.relationships)
    (icon : Text.IsOneLine (Plan.ofOptions options).menuIcon)
    (targets : ∀ relationship ∈ (Plan.ofOptions options).relationships,
      '/' ∉ relationship.target)
    (wellFormed : tree.WellFormed) (begins : tree.node? project.start = some .directory)
    (climbs : tree.Climbs project.start project.root) (root : SearchRoot project.root)
    (shared : ∀ registration, (Plan.ofOptions options).Registers project.layout registration →
      project.Clean tree registration.file)
    (source : TemplateSource) (templates : Tree) (place : Location) (moment again : Moment)
    {changed : Tree} {report : Report}
    (done : project.install moment (Plan.ofOptions options)
      ((Plan.ofOptions options).output source templates place) tree = (changed, .ok report)) :
    ∃ last later, project.install again (Plan.ofOptions options)
        ((Plan.ofOptions options).output source templates place) changed = (last, .ok later) ∧
      later.inserted = 0 ∧ later.written = report.written ∧
      ∀ location, last.node? location = changed.node? location := by
  have wirable := Plan.wirable_ofOptions clean icon
  generalize Plan.ofOptions options = plan at *
  obtain ⟨middle, written, reports, wrote, added, rfl⟩ := install_ok.mp done
  have plain := wirable.plain
  obtain ⟨whole, kept, -⟩ := writeArtifacts_spec writes wellFormed begins wrote
  obtain ⟨wholeLast, directories⟩ := addAllEntries_wellFormed writes whole added
  have keptLast : middle.Extends changed := fun location => (directories location).mpr
  have made : ∀ file ∈ (plan.output source templates place).files,
      file.path = file.artifact.path plan := fun file => Plan.path_of_mem_output
  have places : ∀ file ∈ distinctFiles ((project.pending middle plan).map (·.file)),
      plan.SharedPlace file := fun file =>
    sharedPlace_of_mem_distinctFiles plain standard targets
  -- The artifacts are written again.
  obtain ⟨next, wroteAgain, same⟩ := writeArtifacts_again writes wellFormed begins climbs root plain
    (fun file => Plan.migration_first) made wrote wholeLast keptLast
    (fun parent name ends => exists_addAllEntries_iff writes whole
      (not_copy_of_migrationEnding ends) parent added)
    (fun path member location leads => by
      obtain ⟨artifact, -, written⟩ := artifactPlace_of_mem_written plain made wrote path member
      exact node?_artifact_addAllEntries writes whole places written leads added) again
  have sameFile : ∀ file, changed.SameFile next project.start (project.pathOf file) := fun file =>
    .of_node?_eq same project.start (project.pathOf file)
  -- The models are found as before.
  have models : ∀ accessor ∈ plan.accessors, project.accessorFile? next plan accessor =
      project.accessorFile? middle plan accessor := fun accessor listed =>
    accessorFile?_eq fun candidate found => by
      rw [← (sameFile candidate).isFile_eq, isFile_addAllEntries writes whole places
        (sharedPlace_of_candidate plain standard targets listed found) added]
  -- The shared files rest.
  have rests : ∀ file ∈ distinctFiles ((project.pending middle plan).map (·.file)),
      project.Rests next file ((project.pending middle plan).filter fun registration =>
        FilePath.same registration.file file) := by
    intro file member
    refine (rests_addAllEntries writes whole places (pairwise_distinctFiles _)
      (fun other listed => settles_pending wirable standard targets (places other listed).straight)
      (fun other listed => ?_) added file member).congr (sameFile file)
    obtain ⟨registration, pending, rfl⟩ := List.mem_map.mp (mem_distinctFiles listed)
    exact (shared registration (registers_of_mem_pending pending)).congr
      (sameFile_writeArtifacts writes wellFormed begins climbs plain made wrote
        (places registration.file listed))
  obtain ⟨later, addedAgain, none⟩ := addAllEntries_of_rests rests
  refine ⟨next, ⟨written, project.accessorWarnings middle plan ++ later⟩,
    install_ok.mpr ⟨next, written, later, wroteAgain, ?_, ?_⟩, ?_, rfl, same⟩
  · rw [pending_eq models, addedAgain]
  · rw [accessorWarnings_eq models]
  · rw [Report.inserted, List.length_eq_zero_iff, List.filter_eq_nil_iff]
    intro entry member
    rcases List.mem_append.mp member with warning | reported
    · obtain ⟨accessor, -, rfl⟩ := List.mem_map.mp warning
      simp
    · simpa using none entry reported

/-- The file holds no carriage returns. -/
def withoutReturns : FileContent → Bool
  | .text text => !text.contains '\x0d'
  | .bytes _ => true

/-- Where no file holds carriage returns, no shared file does. -/
theorem clean_of_files (clean : ∀ entry ∈ tree.files, withoutReturns entry.2 = true)
    (file : FilePath) : project.Clean tree file := by
  intro location text _ there
  unfold Tree.node? at there
  split at there
  · simp at there
  · obtain ⟨entry, found, same⟩ := Option.map_eq_some_iff.mp there
    have member : (entry.1, FileContent.text text) ∈ tree.files :=
      List.mem_filterMap.mpr ⟨entry, List.mem_of_find?_eq_some found, by simp [same]⟩
    simpa [withoutReturns] using clean _ member

example : ∀ entry ∈ (routesOnly plainRoutes).files, withoutReturns entry.2 = true := by
  decide +kernel

/-- The installation of a module. -/
def firstTime (project : Project) (plan : Plan) (output : Output) (tree : Tree) : Changed Report :=
  project.install ⟨2026, 1, 1, 0, 0, 0⟩ plan output tree

/-- Its installation once more, a year later. -/
def secondTime (project : Project) (plan : Plan) (output : Output) (tree : Tree) :
    Changed Report :=
  project.install ⟨2027, 1, 1, 0, 0, 0⟩ plan output (project.firstTime plan output tree).1

/-- Valves are installed where only the file of routes is there. -/
theorem firstTime_valves :
    (standardProject.firstTime (Plan.ofOptions { displayName := "Valve" }) valveOutput
      (routesOnly plainRoutes)).2 = .ok (migrationReport .inserted) := by
  unfold firstTime
  rw [install_valves rfl, files_valveOutput]
  unfold standardProject routesOnly plainRoutes migrationReport routesReport valveEntries defaultIcon
  simp (disch := exact rfl) only [Text.toList_literal, -String.reduceToList]
  decide +kernel

/-- Valves are installed a second time. -/
theorem install_again_valves :
    (standardProject.firstTime (Plan.ofOptions { displayName := "Valve" }) valveOutput
        (routesOnly plainRoutes)).2 = .ok (migrationReport .inserted) ∧
      ∃ last later, standardProject.secondTime (Plan.ofOptions { displayName := "Valve" })
          valveOutput (routesOnly plainRoutes) = (last, .ok later) ∧
        later.inserted = 0 ∧ later.written = (migrationReport .inserted).written := by
  have done := firstTime_valves
  refine ⟨done, ?_⟩
  unfold secondTime
  generalize first : standardProject.firstTime (Plan.ofOptions { displayName := "Valve" })
    valveOutput (routesOnly plainRoutes) = result at done ⊢
  obtain ⟨changed, answer⟩ := result
  obtain rfl : answer = .ok (migrationReport .inserted) := done
  obtain ⟨last, later, again, none, written, -⟩ := install_again { displayName := "Valve" } rfl rfl
    (by decide +kernel) (by decide +kernel) (by decide +kernel) (by decide +kernel) rfl
    (by decide +kernel) ⟨by unfold Glob.Tame; decide +kernel, by decide +kernel⟩
    (fun registration _ => clean_of_files (by decide +kernel) registration.file)
    (.directory "stubs") migrationStub [] ⟨2026, 1, 1, 0, 0, 0⟩ ⟨2027, 1, 1, 0, 0, 0⟩ first
  exact ⟨last, later, again, none, written⟩

/-- A tree with a migration of valves. -/
def oldMigration : Tree :=
  ⟨[(["database"], .directory), (["database", "migrations"], .directory),
    (["database", "migrations", "2020_01_01_000000_create_valves_table.php"],
      .file (.text "<?php\n"))]⟩

/-- A tree with a file of the navigation only. -/
def navigationOnly (navigation : Text) : Tree :=
  ⟨[([("resources" : Text)], .directory), (["resources", "js"], .directory),
    (["resources", "js", "config"], .directory),
    (["resources", "js", "config", "navigation.ts"], .file (.text navigation))]⟩

/-- The end of one import and the start of another one. -/
def importBreak : Text := "v \x7d from 'lucide-react'; import \x7b"

/-- An icon of several lines, which makes an import of the line above a menu item and of the item. -/
def brokenIcon : Text :=
  importBreak ++
    ("\n// modforge:entry /valves\n\x7b title: 'Valves', href: '/valves', icon: v" : Text)

/-- A menu whose last line is such a break. -/
def brokenMenu : Text :=
  "// modforge:begin navigation\nz" ++ importBreak ++ "\n// modforge:end navigation\n"

/-- What a second installation may do otherwise: where the root goes up from a directory that is
missing, or has an empty name behind a point, it writes another migration; and an icon of several
lines may find a place only then. -/
theorem installs_otherwise :
    ((projectAt "fresh/..").firstTime (Plan.ofOptions { displayName := "Valve" }) valveOutput
          oldMigration).2.map (·.written) =
        .ok ["database/migrations/2026_01_01_000000_create_valves_table.php"] ∧
      ((projectAt "fresh/..").secondTime (Plan.ofOptions { displayName := "Valve" }) valveOutput
          oldMigration).2.map (·.written) =
        .ok ["database/migrations/2020_01_01_000000_create_valves_table.php"] ∧
      ((projectAt ".//p").firstTime (Plan.ofOptions { displayName := "Valve" }) valveOutput
          ⟨[]⟩).2.map (·.written) =
        .ok ["database/migrations/2026_01_01_000000_create_valves_table.php"] ∧
      ((projectAt ".//p").secondTime (Plan.ofOptions { displayName := "Valve" }) valveOutput
          ⟨[]⟩).2.map (·.written) =
        .ok ["database/migrations/2027_01_01_000000_create_valves_table.php"] ∧
      (standardProject.secondTime
          (Plan.ofOptions { displayName := "Valve", icon := some brokenIcon }) ⟨[], []⟩
          (navigationOnly brokenMenu)).2.map (·.inserted) = .ok 1 := by
  unfold secondTime firstTime projectAt standardProject
  simp only [install_valves, files_valveOutput]
  unfold valveEntries defaultIcon oldMigration navigationOnly brokenMenu brokenIcon importBreak
  simp (disch := exact rfl) only [Text.toList_literal, -String.reduceToList]
  decide +kernel

/-- Two trees have entries named after the migration of a plan at the same places. -/
def SameMigrations (plan : Plan) (tree other : Tree) : Prop :=
  ∀ parent name, Artifact.migrationEnding plan <:+ name →
    (other.node? (parent ++ [name]) ≠ none ↔ tree.node? (parent ++ [name]) ≠ none)

/-- Adding entries to shared files makes no migration. -/
theorem sameMigrations_addAllEntries (writes : project.dryRun = false) (wellFormed : tree.WellFormed)
    {registrations : List Registration} {files : List FilePath} {changed : Tree}
    {reports : List EntryReport}
    (done : project.addAllEntries registrations tree files = (changed, .ok reports)) :
    SameMigrations plan tree changed := fun parent _ ends =>
  exists_addAllEntries_iff writes wellFormed (not_copy_of_migrationEnding ends) parent done

/-- **A table has one migration.** After an installation in a root that is there and is read as it is
written, the artifacts are written to the same paths again, whatever the layout is and the clock says,
the migration under the name that it has; and an installation once more brings no other migration. -/
theorem install_keeps_migration (options : Options) (writes : project.dryRun = false)
    (wellFormed : tree.WellFormed) (begins : tree.node? project.start = some .directory)
    (there : tree.isDirectory project.start project.root = true) (root : SearchRoot project.root)
    (source : TemplateSource) (templates : Tree) (place : Location) (moment again : Moment)
    {changed : Tree} {report : Report}
    (done : project.install moment (Plan.ofOptions options)
      ((Plan.ofOptions options).output source templates place) tree = (changed, .ok report)) :
    (∀ file ∈ ((Plan.ofOptions options).output source templates place).files,
      file.artifact = .migration → ∃ name, Artifact.migrationEnding (Plan.ofOptions options) <:+ name ∧
        report.written.head? =
          some (FilePath.join (Artifact.migrationDirectory (Plan.ofOptions options)) name)) ∧
    (∃ next, project.writeArtifacts again changed
        ((Plan.ofOptions options).output source templates place).files = (next, .ok report.written) ∧
      SameMigrations (Plan.ofOptions options) changed next) ∧
    ∀ last later, project.install again (Plan.ofOptions options)
        ((Plan.ofOptions options).output source templates place) changed = (last, .ok later) →
      later.written = report.written ∧ SameMigrations (Plan.ofOptions options) changed last := by
  have plain := Plan.plain_ofOptions options
  generalize Plan.ofOptions options = plan at *
  obtain ⟨middle, written, reports, wrote, added, rfl⟩ := install_ok.mp done
  have climbs := Tree.climbs_of_isDirectory there
  obtain ⟨whole, kept, all, paths, -, places, filled, -⟩ :=
    writeArtifacts_spec writes wellFormed begins wrote
  obtain ⟨wholeLast, directories⟩ := addAllEntries_wellFormed writes whole added
  have keptLast : middle.Extends changed := fun location => (directories location).mpr
  have same : SameMigrations plan middle changed := sameMigrations_addAllEntries writes whole added
  have files : ∀ file ∈ all, ∃ content, middle.node? file.location = some (.file (.text content)) := by
    intro file member
    obtain ⟨content, found⟩ := Written.exists_contentAt? member
    exact ⟨content, filled _ content found⟩
  have leads : ∀ file ∈ all, changed.locate project.start (project.pathOf file.path) =
      .ok file.location ∧ changed.node? file.location ≠ some .directory := by
    intro file member
    obtain ⟨content, text⟩ := files file member
    exact ⟨keptLast.locate (places file member).1, by rw [ne_eq, directories, text]; simp⟩
  obtain ⟨next, rewritten, elsewhere⟩ := writeArtifacts_same_paths writes wellFormed begins climbs
    root plain (fun file => Plan.migration_first) (fun file => Plan.path_of_mem_output) wrote
    wholeLast keptLast same paths leads again
  obtain ⟨wholeNext, -, others, pathsNext, -, placesNext, filledNext, -⟩ :=
    writeArtifacts_spec writes wholeLast (keptLast _ (kept _ begins)) rewritten
  have fresh : SameMigrations plan changed next := by
    refine fun parent name ends => ⟨fun now => ?_, ne_none_writeArtifacts writes wholeLast
      (keptLast _ (kept _ begins)) rewritten⟩
    by_cases here : ∃ file ∈ all, file.location = parent ++ [name]
    · obtain ⟨file, member, place⟩ := here
      obtain ⟨content, text⟩ := files file member
      exact (same parent name ends).mpr (by rw [← place, text]; simp)
    · have other : ∀ file ∈ all, file.location ≠ parent ++ [name] :=
        fun file member place => here ⟨file, member, place⟩
      rwa [elsewhere _ other] at now
  refine ⟨fun file member kind => ?_, ⟨next, rewritten, fresh⟩, fun last later once => ?_⟩
  · have own : file.path = file.artifact.path plan := Plan.path_of_mem_output member
    have late : ∀ other ∈ (plan.output source templates place).files.tail,
        other.artifact ≠ .migration := fun other => Plan.migration_first
    revert wrote late member
    generalize (plan.output source templates place).files = outputs
    intro wrote member late
    cases outputs with
    | nil => cases member
    | cons first rest =>
      obtain rfl : file = first :=
        (List.mem_cons.mp member).resolve_right fun behind => late file behind kind
      obtain ⟨location, later, spelled, -⟩ := written_eq_migrationName writes wellFormed begins
        climbs root plain kind own wrote
      exact ⟨_, (migrationName_spec plain wellFormed moment location).2, by rw [spelled]; rfl⟩
  · obtain ⟨other, paths, more, wroteOther, addedOther, rfl⟩ := install_ok.mp once
    rw [rewritten] at wroteOther
    obtain ⟨rfl, equal⟩ := Prod.mk.inj wroteOther
    obtain rfl := Except.ok.inj equal
    have onward : SameMigrations plan _ _ :=
      sameMigrations_addAllEntries writes wholeNext addedOther
    exact ⟨rfl, fun parent name ends => (onward parent name ends).trans (fresh parent name ends)⟩

/-- The migration of valves is written once more. -/
theorem install_keeps_migration_valves :
    (standardProject.firstTime (Plan.ofOptions { displayName := "Valve" }) valveOutput
        (routesOnly plainRoutes)).2 = .ok (migrationReport .inserted) ∧
      ∃ next, standardProject.writeArtifacts ⟨2027, 1, 1, 0, 0, 0⟩
          (standardProject.firstTime (Plan.ofOptions { displayName := "Valve" }) valveOutput
            (routesOnly plainRoutes)).1 valveOutput.files =
          (next, .ok ["database/migrations/2026_01_01_000000_create_valves_table.php"]) ∧
        SameMigrations (Plan.ofOptions { displayName := "Valve" })
          (standardProject.firstTime (Plan.ofOptions { displayName := "Valve" }) valveOutput
            (routesOnly plainRoutes)).1 next := by
  have done := firstTime_valves
  refine ⟨done, ?_⟩
  generalize first : standardProject.firstTime (Plan.ofOptions { displayName := "Valve" })
    valveOutput (routesOnly plainRoutes) = result at done ⊢
  obtain ⟨changed, answer⟩ := result
  obtain rfl : answer = .ok (migrationReport .inserted) := done
  obtain ⟨-, again, -⟩ := install_keeps_migration { displayName := "Valve" } rfl
    (by decide +kernel) rfl (by decide +kernel) ⟨by unfold Glob.Tame; decide +kernel, by decide +kernel⟩
    (.directory "stubs") migrationStub [] ⟨2026, 1, 1, 0, 0, 0⟩ ⟨2027, 1, 1, 0, 0, 0⟩ first
  exact again

/-- In a root with brackets in its name, a second installation finds no migration of the first. -/
theorem installs_second_migration :
    (⟨[(["[x]"], .directory)]⟩ : Tree).isDirectory [] "[x]" = true ∧
      ((projectAt "[x]").firstTime (Plan.ofOptions { displayName := "Valve" }) valveOutput
          ⟨[(["[x]"], .directory)]⟩).2.map (·.written) =
        .ok ["database/migrations/2026_01_01_000000_create_valves_table.php"] ∧
      ((projectAt "[x]").secondTime (Plan.ofOptions { displayName := "Valve" }) valveOutput
          ⟨[(["[x]"], .directory)]⟩).2.map (·.written) =
        .ok ["database/migrations/2027_01_01_000000_create_valves_table.php"] := by
  unfold secondTime firstTime projectAt standardProject
  simp only [install_valves, files_valveOutput]
  unfold valveEntries defaultIcon
  simp (disch := exact rfl) only [Text.toList_literal, -String.reduceToList]
  decide +kernel

end Project

end Scaffold
