import Scaffold.Plan.Build
import Scaffold.Proofs.Project.Sharing

/-!
# What was written by hand stays

After an installation a shared file holds its own rows with the added ones woven in, exactly if it
was not empty and no carriage return stood in front of a line feed in it
(`handwritten_kept_iff`). Otherwise the file is written with other line endings, even if nothing is
added to it.
-/
namespace Scaffold

/-- The anchors of generated entries. -/
def Anchor.generated : List Anchor :=
  [.routes, .permissions, .mainMenu, .setupMenu, .icons, .seeder, .classEnd]

/-- No generated entry finds its anchor in an empty line. -/
theorem Anchor.locate_feed : ∀ anchor ∈ generated, anchor.locate ['\n'] = .ok none := by
  unfold generated routes permissions mainMenu setupMenu icons seeder classEnd
  simp (disch := exact rfl) only [Text.toList_literal, -String.reduceToList]
  decide +kernel

namespace Plan

/-- The plan makes a registration: an entry of a shared file, or an accessor in a file that its
model is looked for in. -/
def Registers (plan : Plan) (layout : Layout) (registration : Registration) : Prop :=
  registration ∈ plan.sharedEntries layout ∨ ∃ accessor ∈ plan.accessors,
    ∃ candidate ∈ plan.modelCandidates layout accessor.target,
      registration = accessor.registration candidate

/-- Every registration of a plan has one of the generated anchors. -/
theorem Registers.anchor_mem {plan : Plan} {layout : Layout} {registration : Registration}
    (made : plan.Registers layout registration) : registration.anchor ∈ Anchor.generated := by
  rcases made with shared | ⟨accessor, -, candidate, -, rfl⟩
  · simp only [sharedEntries, List.cons_append, List.mem_cons, List.mem_append, List.mem_map,
      List.not_mem_nil, or_false] at shared
    rcases shared with rfl | ⟨dependency, -, rfl⟩ | rfl | rfl | rfl | rfl
    · exact .head _
    · exact .head _
    · exact .tail _ (.head _)
    · exact .tail _ (.tail _ (.tail _ (.tail _ (.head _))))
    · show (if plan.systemSetup.isSome then Anchor.setupMenu else .mainMenu) ∈ Anchor.generated
      cases plan.systemSetup.isSome
      · exact .tail _ (.tail _ (.head _))
      · exact .tail _ (.tail _ (.tail _ (.head _)))
    · exact .tail _ (.tail _ (.tail _ (.tail _ (.tail _ (.head _)))))
  · exact .tail _ (.tail _ (.tail _ (.tail _ (.tail _ (.tail _ (.head _))))))

end Plan

namespace SharedFile

/-- Nothing can be added to an empty file where its one empty line is no anchor. -/
theorem insert_empty {registration : Registration}
    (nowhere : registration.anchor.locate ['\n'] = .ok none) {answer : Insertion}
    {changed : SharedFile} (done : (ofText []).insert registration = .ok (answer, changed)) :
    answer ≠ .inserted ∧ changed = ofText [] := by
  have text : (ofText []).toText = ['\n'] := rfl
  have region : (ofText []).region? registration.region = none := rfl
  rcases insert_cases done with ⟨rfl, rfl, -⟩ | ⟨rfl, rfl, -⟩ | ⟨-, -, found, some, -⟩ |
    ⟨-, -, -, site, some, -⟩
  · exact ⟨by simp, rfl⟩
  · exact ⟨by simp, rfl⟩
  · rw [region] at some
    exact absurd some (by simp)
  · rw [text, nowhere] at some
    exact absurd some (by simp)

end SharedFile

namespace Project

open Scaffold.Tree

variable {project : Project} {tree changed : Tree} {location : Location}

/-- Every pending registration is made by the plan. -/
theorem registers_of_mem_pending {plan : Plan} {registration : Registration}
    (member : registration ∈ project.pending tree plan) :
    plan.Registers project.layout registration := by
  rcases List.mem_append.mp member with shared | reverse
  · exact .inl shared
  · obtain ⟨accessor, listed, found⟩ := List.mem_filterMap.mp reverse
    obtain ⟨candidate, first, rfl⟩ := Option.map_eq_some_iff.mp found
    exact .inr ⟨accessor, listed, candidate, List.mem_of_find?_eq_some first, rfl⟩

/-- Insertions add nothing to an empty file where its one empty line is no anchor. -/
theorem insertAll_empty {path : FilePath} {registrations : List Registration}
    {updated : SharedFile} {reports : List EntryReport}
    (nowhere : ∀ registration ∈ registrations, registration.anchor.locate ['\n'] = .ok none)
    (done : insertAll path (SharedFile.ofText []) registrations = .ok (updated, reports)) :
    updated = SharedFile.ofText [] := by
  induction registrations generalizing reports with
  | nil =>
    obtain ⟨same, -⟩ := insertAll_nil_ok.mp done
    exact same.symm
  | cons registration rest ih =>
    obtain ⟨answer, changed, later, first, others, -⟩ := insertAll_cons_ok.mp done
    obtain ⟨-, rfl⟩ := SharedFile.insert_empty (nowhere registration List.mem_cons_self) first
    exact ih (fun other member => nowhere other (List.mem_cons_of_mem _ member)) others

/-- What becomes of the rows of a file: the added ones are woven into its own exactly if it is not
empty and no carriage return stands in front of a line feed. -/
theorem weave_rows_insertAll_iff {path : FilePath} {registrations : List Registration}
    {before : Text} {updated : SharedFile} {reports : List EntryReport}
    (anchored : ∀ registration ∈ registrations, registration.anchor ∈ Anchor.generated)
    (done : insertAll path (SharedFile.ofText before) registrations = .ok (updated, reports)) :
    ∃ added : List Text, (∀ line ∈ added, AddedBy path registrations reports line) ∧
      (Weave (Text.rows before) (added.flatMap Text.rows) (Text.rows updated.toText) ↔
        before ≠ [] ∧ ¬Text.returnFeed <:+: before) := by
  by_cases filled : before = []
  · subst filled
    obtain rfl := insertAll_empty
      (fun registration member => Anchor.locate_feed _ (anchored registration member)) done
    refine ⟨[], by simp, ?_⟩
    simp only [List.flatMap_nil, ne_eq, not_true_eq_false, false_and, iff_false]
    intro weave
    have longer := weave.eq_of_none
    have rows : Text.rows (SharedFile.ofText []).toText = [[], []] := by decide
    rw [rows] at longer
    exact absurd longer (by simp)
  · obtain ⟨ended, added, weave, source⟩ := weave_insertAll done
    refine ⟨added, source, ?_⟩
    rw [and_iff_right filled]
    exact SharedFile.weave_rows_iff filled ended weave

/-- A shared file that a report lists has a place of its own: it leads to a place to which no other
file of the report leads, no copy of one and no artifact. -/
structure OwnPlace (project : Project) (tree : Tree) (report : Report) (file : FilePath)
    (location : Location) : Prop where
  /-- The report lists the file. -/
  listed : ∃ entry ∈ report.entries, entry.file = file
  /-- The file leads to the place. -/
  leads : tree.locate project.start (project.pathOf file) = .ok location
  /-- No other file of the report does. -/
  single : ∀ entry ∈ report.entries,
    tree.locate project.start (project.pathOf entry.file) = .ok location →
    FilePath.same entry.file file = true
  /-- No copy of a file does. -/
  noCopy : ∀ entry ∈ report.entries,
    tree.locate project.start (backupPath (project.pathOf entry.file)) ≠ .ok location
  /-- No artifact does. -/
  noArtifact : ∀ path ∈ report.written,
    tree.locate project.start (project.pathOf path) ≠ .ok location

/-- A row was added for a registration of the plan that is reported as inserted into the file. -/
def AddedRow (project : Project) (plan : Plan) (report : Report) (file : FilePath) (row : Text) :
    Prop :=
  ∃ registration line, plan.Registers project.layout registration ∧
    ⟨file, registration.entry.key, .inserted⟩ ∈ report.entries ∧ registration.Adds line ∧
    row ∈ Text.rows line

/-- The file of an accessor without one does not lead to a file. -/
theorem isFile_of_mem_accessorWarnings {plan : Plan} {entry : EntryReport}
    (member : entry ∈ project.accessorWarnings tree plan) :
    tree.isFile project.start (project.pathOf entry.file) = false := by
  obtain ⟨accessor, listed, rfl⟩ := List.mem_map.mp member
  have missing := (List.mem_filter.mp listed).2
  rw [accessorFile?, Option.isNone_iff_eq_none, List.find?_eq_none] at missing
  simpa using missing _ (plan.modelFile_mem_modelCandidates project.layout accessor.target)

/-- **What an installation makes of a shared file** that has a place of its own: what the insertions of
its own entries make of it, and it is reported about them. -/
theorem insertAll_of_install {moment : Moment} {plan : Plan} {output : Output} {report : Report}
    (writes : project.dryRun = false) (wellFormed : tree.WellFormed)
    (begins : tree.node? project.start = some .directory)
    (done : project.install moment plan output tree = (changed, .ok report))
    {file : FilePath} (own : project.OwnPlace changed report file location) {before : Text}
    (there : tree.node? location = some (.file (.text before))) :
    ∃ (middle : Tree) (updated : SharedFile) (reports : List EntryReport),
      insertAll file (SharedFile.ofText before)
        ((project.pending middle plan).filter fun registration =>
          FilePath.same registration.file file) = .ok (updated, reports) ∧
      (∀ entry ∈ reports, entry ∈ report.entries) ∧
      changed.node? location = some (.file (.text updated.toText)) := by
  obtain ⟨middle, written, reports, wrote, added, rfl⟩ := install_ok.mp done
  obtain ⟨whole, -, all, rfl, -, places, -, blank⟩ :=
    writeArtifacts_spec writes wellFormed begins wrote
  obtain ⟨-, same⟩ := addAllEntries_wellFormed writes whole added
  have kept : middle.Extends changed := fun place => (same place).mpr
  have back : changed.Extends middle := fun place => (same place).mp
  -- The artifacts lie elsewhere, so the file is what it was when entries are added to it.
  have still : middle.node? location = some (.file (.text before)) := by
    have none : Written.contentAt? all location = none := by
      rw [Written.contentAt?_eq_none]
      rintro artifact member rfl
      exact own.noArtifact artifact.path (List.mem_map_of_mem member)
        (kept.locate (places artifact member).1)
    rcases blank location none with unchanged | ⟨missing, -⟩
    · rw [unchanged, there]
    · rw [there] at missing
      exact absurd missing (by simp)
  have member : file ∈ distinctFiles ((project.pending middle plan).map (·.file)) := by
    obtain ⟨entry, inside, rfl⟩ := own.listed
    rcases List.mem_append.mp inside with warning | reported
    · have isFile := isFile_iff.mpr ⟨location, _, back.locate own.leads, still⟩
      rw [isFile_of_mem_accessorWarnings warning] at isFile
      exact absurd isFile (by simp)
    · exact file_of_mem_reports added reported
  have reported : ∀ other ∈ distinctFiles ((project.pending middle plan).map (·.file)),
      ∃ entry ∈ project.accessorWarnings middle plan ++ reports, entry.file = other := by
    intro other inside
    obtain ⟨registration, wanted, rfl⟩ := List.mem_map.mp (mem_distinctFiles inside)
    obtain ⟨entry, listed, about⟩ := exists_report added inside
      ⟨registration, wanted, by simp [FilePath.same]⟩
    exact ⟨entry, List.mem_append_right _ listed, about⟩
  obtain ⟨_, updated, ownReports, ⟨⟩, inserted, among, text⟩ := addAllEntries_text writes whole
    (pairwise_distinctFiles _) added member still own.leads
    (by
      intro other inside reached
      obtain ⟨entry, listed, rfl⟩ := reported other inside
      exact own.single entry listed reached)
    (by
      intro other inside reached
      obtain ⟨entry, listed, rfl⟩ := reported other inside
      exact own.noCopy entry listed reached)
  exact ⟨middle, updated, ownReports, inserted,
    fun entry listed => List.mem_append_right _ (among entry listed), text⟩

/-- **Hand-written text is preserved.** After an installation a shared file that has a place of its
own holds the rows that it had with the added ones woven in, exactly if it was not empty and no
carriage return stood in front of a line feed; and if nothing was inserted into it, it is what it
was exactly then. -/
theorem handwritten_kept_iff {moment : Moment} {plan : Plan} {output : Output} {report : Report}
    (writes : project.dryRun = false) (wellFormed : tree.WellFormed)
    (begins : tree.node? project.start = some .directory)
    (done : project.install moment plan output tree = (changed, .ok report))
    {file : FilePath} (own : project.OwnPlace changed report file location) {before : Text}
    (there : tree.node? location = some (.file (.text before))) :
    ∃ after added, changed.node? location = some (.file (.text after)) ∧
      (∀ row ∈ added, project.AddedRow plan report file row) ∧
      (Weave (Text.rows before) added (Text.rows after) ↔
        before ≠ [] ∧ ¬Text.returnFeed <:+: before) ∧
      ((∀ entry ∈ report.entries, entry.file = file → entry.result ≠ .inserted) →
        (after = before ↔ before ≠ [] ∧ ¬Text.returnFeed <:+: before)) := by
  obtain ⟨middle, updated, ownReports, inserted, among, text⟩ :=
    insertAll_of_install writes wellFormed begins done own there
  obtain ⟨lines, source, weave⟩ := weave_rows_insertAll_iff
    (fun registration wanted =>
      (registers_of_mem_pending (List.mem_filter.mp wanted).1).anchor_mem) inserted
  refine ⟨updated.toText, lines.flatMap Text.rows, text, ?_, weave, ?_⟩
  · intro row inside
    obtain ⟨line, listed, piece⟩ := List.mem_flatMap.mp inside
    obtain ⟨registration, wanted, success, adds⟩ := source line listed
    exact ⟨registration, line, registers_of_mem_pending (List.mem_filter.mp wanted).1,
      among _ success, adds, piece⟩
  · intro none
    have unchanged : updated = SharedFile.ofText before := by
      refine insertAll_eq_of_none inserted fun entry listed => ?_
      have about : (entry.file, entry.key) ∈ ownReports.map fun entry => (entry.file, entry.key) :=
        List.mem_map.mpr ⟨entry, listed, rfl⟩
      rw [map_insertAll inserted] at about
      obtain ⟨registration, -, same⟩ := List.mem_map.mp about
      have named : file = entry.file := congrArg Prod.fst same
      exact none entry (among entry listed) named.symm
    rw [unchanged]
    exact SharedFile.toText_ofText_iff

/-- A tree with a file of routes only. -/
def routesOnly (routes : Text) : Tree :=
  ⟨[([("routes" : Text)], .directory), (["routes", "web.php"], .file (.text routes))]⟩

/-- A project of the standard layout at the root of the file system. -/
def standardProject : Project := { start := [], root := ".", layout := .standard, dryRun := false }

/-- What an installation of valves reports where only the file of routes is there. -/
def routesReport (result : EntryResult) : Report :=
  { written := []
    entries :=
      [⟨"routes/web.php", "valves", result⟩,
        ⟨"database/seeders/PermissionSeeder.php", "valves", .fileNotFound⟩,
        ⟨"resources/js/config/navigation.ts", "LayoutGrid", .fileNotFound⟩,
        ⟨"resources/js/config/navigation.ts", "/valves", .fileNotFound⟩,
        ⟨"database/seeders/DatabaseSeeder.php", "Valve", .fileNotFound⟩] }

/-- A file of routes without entries. -/
def plainRoutes : Text := "<?php\n\nrequire __DIR__ . '/auth.php';\n"

/-- The same file with the routes of valves. -/
def valveRoutes : Text :=
  ("<?php\n\n// modforge:begin routes\n// modforge:entry valves\n" : Text) ++
    "Route::middleware(['auth', 'verified'])->resource('valves', " ++
    "\\App\\Http\\Controllers\\ValveController::class)->except(['show']);\n" ++
    "// modforge:end routes\nrequire __DIR__ . '/auth.php';\n"

/-- What valves with an icon add to the shared files of the standard layout. -/
def valveEntries (icon : Text) : List Registration :=
  [{ file := "routes/web.php", region := "routes", anchor := .routes
     entry :=
       { key := "valves"
         lines :=
           [("Route::middleware(['auth', 'verified'])->resource('valves', " : Text) ++
             "\\App\\Http\\Controllers\\ValveController::class)->except(['show']);"]
         presence := .occurs "resource('valves'" } },
    { file := "database/seeders/PermissionSeeder.php", region := "permissions"
      anchor := .permissions
      entry :=
        { key := "valves"
          lines :=
            ["'valves.manage',", "'valves.manage-any',", "'valves.manage-own',", "'valves.view',",
              "'valves.create',", "'valves.edit',", "'valves.delete',"]
          presence := .occurs "'valves.manage'" } },
    { file := "resources/js/config/navigation.ts", region := "navigation-icons", anchor := .icons
      entry :=
        { key := icon
          lines := ["import " ++ Code.record [icon] ++ " from 'lucide-react';"]
          presence := .word icon } },
    { file := "resources/js/config/navigation.ts", region := "navigation", anchor := .mainMenu
      entry :=
        { key := "/valves"
          lines :=
            [Code.record ["title: 'Valves'", "href: '/valves'", ("icon: " : Text) ++ icon] ++ ","]
          presence := .occurs "'/valves'" } },
    { file := "database/seeders/DatabaseSeeder.php", region := "seeders", anchor := .seeder
      entry :=
        { key := "Valve"
          lines := ["\\App\\Models\\Valve::factory()->count(10)->create();"]
          presence := .word "Valve::factory(" } }]

/-- The entries of valves depend on their icon only. -/
theorem sharedEntries_valves (icon : Option Text) :
    (Plan.ofOptions { displayName := "Valve", icon }).sharedEntries .standard =
      valveEntries ((icon.bind Text.nonBlank?).getD defaultIcon) := by
  have plain : (Plan.ofOptions { displayName := "Valve" }).sharedEntries .standard =
      valveEntries defaultIcon := by
    unfold Plan.sharedEntries Plan.resourceRoute Plan.permissionEntry Plan.iconEntry Plan.menuEntry
      Plan.seederEntry Plan.routeMiddleware Plan.firstPermission Layout.standard valveEntries
      Anchor.routes Anchor.permissions Anchor.icons Anchor.mainMenu Anchor.seeder defaultIcon
    simp (disch := exact rfl) only [Text.toList_literal, -String.reduceToList]
    decide +kernel
  have alone (icon : Option Text) :
      (Plan.ofOptions { displayName := "Valve", icon }).dependencies = [] := rfl
  have menu : "title: ".toList ++ Text.quote (Names.ofDisplayName "Valve").labelPlural =
        "title: 'Valves'".toList ∧
      "href: ".toList ++ Text.quote ('/' :: (Names.ofDisplayName "Valve").route) =
        "href: '/valves'".toList ∧
      '/' :: (Names.ofDisplayName "Valve").route = "/valves".toList ∧
      Text.quote ('/' :: (Names.ofDisplayName "Valve").route) = "'/valves'".toList := by
    decide +kernel
  rw [Plan.sharedEntries, alone, List.map_nil] at plain ⊢
  simp only [valveEntries, List.cons_append, List.nil_append, List.cons.injEq, and_true] at plain ⊢
  obtain ⟨route, permissions, -, -, seeder⟩ := plain
  obtain ⟨title, address, key, presence⟩ := menu
  -- The icon and the item are written with the names of the plan here, which the icon leaves alone.
  rw [← title, ← address, ← key, ← presence]
  exact ⟨route, permissions, rfl, rfl, seeder⟩

/-- An installation with the entries of the shared files known beforehand. -/
def installEntries (project : Project) (moment : Moment) (entries : List Registration)
    (files : List OutputFile) (tree : Tree) : Changed Report :=
  match project.writeArtifacts moment tree files with
  | (tree, .error failure) => (tree, .error failure)
  | (tree, .ok written) =>
    match project.addAllEntries entries tree (distinctFiles (entries.map (·.file))) with
    | (changed, .error failure) => (changed, .error failure)
    | (changed, .ok reports) => (changed, .ok ⟨written, reports⟩)

/-- So installs a module that belongs to no other one. -/
theorem install_eq_installEntries {moment : Moment} {plan : Plan} {output : Output}
    (alone : plan.accessors = []) : project.install moment plan output tree =
      project.installEntries moment (plan.sharedEntries project.layout) output.files tree := by
  simp only [install, pending, accessorEntries, accessorWarnings, alone,
    List.filterMap_nil, List.append_nil, List.filter_nil, List.map_nil, List.nil_append]
  rfl

/-- So valves are installed. -/
theorem install_valves {moment : Moment} {output : Output} {icon : Option Text}
    (standard : project.layout = .standard) :
    project.install moment (Plan.ofOptions { displayName := "Valve", icon }) output tree =
      project.installEntries moment (valveEntries ((icon.bind Text.nonBlank?).getD defaultIcon))
        output.files tree := by
  rw [install_eq_installEntries rfl, standard, sharedEntries_valves]

/-- The routes of valves are added to a file whose lines end with line feeds. -/
theorem handwritten_kept_valves :
    ∃ added,
      standardProject.install ⟨2026, 1, 1, 0, 0, 0⟩ (Plan.ofOptions { displayName := "Valve" })
        ⟨[], []⟩ (routesOnly plainRoutes) =
        (routesOnly valveRoutes, .ok (routesReport .inserted)) ∧
      (∀ row ∈ added, standardProject.AddedRow (Plan.ofOptions { displayName := "Valve" })
        (routesReport .inserted) "routes/web.php" row) ∧
      Weave (Text.rows plainRoutes) added (Text.rows valveRoutes) := by
  have done : standardProject.install ⟨2026, 1, 1, 0, 0, 0⟩
      (Plan.ofOptions { displayName := "Valve" }) ⟨[], []⟩ (routesOnly plainRoutes) =
      (routesOnly valveRoutes, .ok (routesReport .inserted)) := by
    rw [install_valves rfl]
    unfold standardProject routesOnly plainRoutes valveRoutes routesReport valveEntries defaultIcon
    simp (disch := exact rfl) only [Text.toList_literal, -String.reduceToList]
    decide +kernel
  have own : standardProject.OwnPlace (routesOnly valveRoutes) (routesReport .inserted)
      "routes/web.php" ["routes", "web.php"] := by
    unfold standardProject routesOnly valveRoutes routesReport
    simp (disch := exact rfl) only [Text.toList_literal, -String.reduceToList]
    exact ⟨by decide +kernel, by decide +kernel, by decide +kernel, by decide +kernel,
      by decide +kernel⟩
  obtain ⟨after, added, now, rows, weave, -⟩ :=
    handwritten_kept_iff rfl (by decide +kernel) rfl done own rfl
  have same : after = valveRoutes := by
    have here : (routesOnly valveRoutes).node? ["routes", "web.php"] =
      some (.file (.text valveRoutes)) := rfl
    rw [here] at now
    simpa using now.symm
  rw [same] at weave
  exact ⟨added, done, rows, weave.mpr (by decide +kernel)⟩

/-- A file whose lines end with carriage returns is written anew though nothing is added to it. -/
theorem handwritten_crlf_rewritten :
    standardProject.install ⟨2026, 1, 1, 0, 0, 0⟩ (Plan.ofOptions { displayName := "Valve" })
        ⟨[], []⟩ (routesOnly "<?php\r\n\r\nRoute::resource('valves', ValveController::class);\r\n") =
      (routesOnly "<?php\n\nRoute::resource('valves', ValveController::class);\n",
        .ok (routesReport .alreadyPresent)) ∧
      (routesReport .alreadyPresent).inserted = 0 := by
  rw [install_valves rfl]
  unfold standardProject routesOnly routesReport valveEntries defaultIcon
  simp (disch := exact rfl) only [Text.toList_literal, -String.reduceToList]
  decide +kernel

end Project

end Scaffold
