import Scaffold.Proofs.Project.Grouping

/-!
# File by file or one at a time

Adding the entries of a project file by file groups them by their files (`adds_fileGroups`), and
adding them one at a time makes every entry a group of its own (`adds_singleGroups`). Where the
files do not get in each other's way (`Orderly`), both come to the same (`batch_as_good`). They do
not where one shared file is the copy of another one (`batch_with_copies`).
-/
namespace Scaffold

namespace Project

open Scaffold.Tree SharedFile

variable {project : Project} {tree changed : Tree} {location : Location} {groups : List Group}

/-- Adds entries one at a time, each with a reading and a writing of its own. -/
def addEach (project : Project) (tree : Tree) :
    List Registration → Changed (List EntryReport)
  | [] => (tree, .ok [])
  | registration :: rest =>
    match project.addEntries tree registration.file [registration] with
    | (tree, .error failure) => (tree, .error failure)
    | (tree, .ok reports) =>
      match project.addEach tree rest with
      | (tree, .error failure) => (tree, .error failure)
      | (tree, .ok more) => (tree, .ok (reports ++ more))

/-- Every entry as a group of its own. -/
def singleGroups (registrations : List Registration) : List Group :=
  registrations.map fun registration => (registration.file, [registration])

/-- The entries of every file as a group. -/
def fileGroups (registrations : List Registration) (files : List FilePath) : List Group :=
  files.map fun file =>
    (file, registrations.filter fun registration => FilePath.same registration.file file)

variable {registrations : List Registration}

/-- Adding entries one at a time is adding groups of one. -/
theorem adds_singleGroups : project.Adds tree (singleGroups registrations) changed ↔
    ∃ reports, project.addEach tree registrations = (changed, .ok reports) := by
  induction registrations generalizing tree with
  | nil =>
    constructor
    · rintro ⟨⟩
      exact ⟨[], rfl⟩
    · rintro ⟨reports, done⟩
      obtain ⟨rfl, -⟩ : tree = changed ∧ [] = reports := by simpa [addEach] using done
      exact .nil tree
  | cons registration rest ih =>
    constructor
    · rintro (_ | ⟨first, others⟩)
      obtain ⟨more, later⟩ := ih.mp others
      exact ⟨_, by simp only [addEach, first, later]; rfl⟩
    · rintro ⟨reports, done⟩
      rw [addEach] at done
      split at done
      · simp at done
      · rename_i middle own first
        split at done
        · simp at done
        · rename_i last more later
          simp only [Prod.mk.injEq] at done
          obtain ⟨rfl, -⟩ := done
          exact .cons first (ih.mpr ⟨more, later⟩)

/-- Adding entries file by file is adding the groups of the files. -/
theorem adds_fileGroups {files : List FilePath} :
    project.Adds tree (fileGroups registrations files) changed ↔
      ∃ reports, project.addAllEntries registrations tree files = (changed, .ok reports) := by
  induction files generalizing tree with
  | nil =>
    constructor
    · rintro ⟨⟩
      exact ⟨[], rfl⟩
    · rintro ⟨reports, done⟩
      obtain ⟨rfl, -⟩ := addAllEntries_nil_ok.mp done
      exact .nil tree
  | cons file rest ih =>
    constructor
    · rintro (_ | ⟨first, others⟩)
      obtain ⟨more, later⟩ := ih.mp others
      exact ⟨_, addAllEntries_cons_ok.mpr ⟨_, _, more, first, later, rfl⟩⟩
    · rintro ⟨reports, done⟩
      obtain ⟨middle, own, more, first, later, -⟩ := addAllEntries_cons_ok.mp done
      exact .cons first (ih.mpr ⟨more, later⟩)

/-- Entries whose files do not get in each other's way. -/
structure Orderly (project : Project) (tree : Tree) (registrations : List Registration) :
    Prop where
  /-- The entries are lines. -/
  lined : ∀ registration ∈ registrations, registration.Lined
  /-- The files that are there hold texts without carriage returns. -/
  texts : ∀ registration ∈ registrations, ∀ location content,
    project.Leads tree registration.file location → tree.node? location = some (.file content) →
      ∃ text, content = .text text ∧ text ≠ [] ∧ '\x0d' ∉ text
  /-- Two paths lead to one file exactly if they are the same. -/
  alike : ∀ registration ∈ registrations, ∀ other ∈ registrations, ∀ location content,
    project.Leads tree registration.file location → tree.node? location = some (.file content) →
      (project.Leads tree other.file location ↔
        FilePath.same registration.file other.file = true)
  /-- No file is looked for where the copy of another one lies. -/
  noCopy : ∀ registration ∈ registrations, ∀ other ∈ registrations, ∀ location,
    tree.locate project.start (backupPath (project.pathOf registration.file)) = .ok location →
      ¬project.Leads tree other.file location

variable {files : List FilePath}

/-- The files of single entries are those of the entries. -/
theorem isShared_singleGroups : project.IsShared tree (singleGroups registrations) location ↔
    (∃ registration ∈ registrations, project.Leads tree registration.file location) ∧
      ∃ content, tree.node? location = some (.file content) := by
  refine and_congr_left fun _ => ?_
  constructor
  · rintro ⟨group, listed, leads⟩
    obtain ⟨registration, own, rfl⟩ := List.mem_map.mp listed
    exact ⟨registration, own, leads⟩
  · rintro ⟨registration, own, leads⟩
    exact ⟨_, List.mem_map.mpr ⟨registration, own, rfl⟩, leads⟩

/-- The files of the groups of all files are those of the entries. -/
theorem Orderly.isShared_fileGroups (orderly : project.Orderly tree registrations) :
    project.IsShared tree (fileGroups registrations (distinctFiles (registrations.map (·.file))))
      location ↔ (∃ registration ∈ registrations, project.Leads tree registration.file location) ∧
        ∃ content, tree.node? location = some (.file content) := by
  refine and_congr_left fun ⟨content, there⟩ => ?_
  constructor
  · rintro ⟨group, listed, leads⟩
    obtain ⟨file, member, rfl⟩ := List.mem_map.mp listed
    obtain ⟨registration, own, rfl⟩ := List.mem_map.mp (mem_distinctFiles member)
    exact ⟨registration, own, leads⟩
  · rintro ⟨registration, own, leads⟩
    obtain ⟨file, member, same⟩ := exists_distinctFiles (List.mem_map_of_mem (f := (·.file)) own)
    obtain ⟨other, ownToo, rfl⟩ := List.mem_map.mp (mem_distinctFiles member)
    exact ⟨_, List.mem_map.mpr ⟨_, member, rfl⟩,
      (orderly.alike registration own other ownToo location content leads there).mpr same⟩

/-- Groups of orderly entries are suited if their files are those of the entries. -/
theorem Orderly.suited (wellFormed : tree.WellFormed)
    (orderly : project.Orderly tree registrations)
    (among : ∀ group ∈ groups, (∃ registration ∈ registrations, group.1 = registration.file) ∧
      group.2 ⊆ registrations) : project.Suited tree groups := by
  have owner : ∀ {location}, project.IsShared tree groups location → ∃ registration ∈ registrations,
      project.Leads tree registration.file location ∧
        ∃ content, tree.node? location = some (.file content) := by
    rintro location ⟨⟨group, member, leads⟩, there⟩
    obtain ⟨registration, own, same⟩ := (among group member).1
    exact ⟨registration, own, same ▸ leads, there⟩
  refine ⟨fun group member registration inside =>
    orderly.lined registration ((among group member).2 inside), ?_, ?_⟩
  · intro location shared
    obtain ⟨registration, own, leads, content, there⟩ := owner shared
    obtain ⟨text, rfl, fine⟩ := orderly.texts registration own location content leads there
    exact ⟨text, there, fine⟩
  · intro location shared group member aside
    obtain ⟨registration, own, leads, content, there⟩ := owner shared
    obtain ⟨other, ownToo, same⟩ := (among group member).1
    exact orderly.noCopy registration own other ownToo _
      (wellFormed.locate_backupPath leads there) (same ▸ aside)

/-- Of several paths of which no two are the same, only one leads to a file. -/
theorem filter_leads {file : FilePath}
    (distinct : files.Pairwise fun file other => FilePath.same file other = false)
    (member : file ∈ files) (leads : project.Leads tree file location)
    (alone : ∀ other ∈ files, project.Leads tree other location → FilePath.same file other = true) :
    files.filter (fun other => project.Leads tree other location) = [file] := by
  induction files with
  | nil => simp at member
  | cons first rest ih =>
    obtain ⟨apart, distinctRest⟩ := List.pairwise_cons.mp distinct
    by_cases here : first = file
    · subst here
      have none : rest.filter (fun other => project.Leads tree other location) = [] := by
        rw [List.filter_eq_nil_iff]
        intro other inside reaches
        have same := alone other (List.mem_cons_of_mem first inside) (by simpa using reaches)
        rw [apart other inside] at same
        exact absurd same (by simp)
      rw [List.filter_cons_of_pos (by simpa using leads), none]
    · have later : file ∈ rest := (List.mem_cons.mp member).resolve_left (Ne.symm here)
      have aside : ¬project.Leads tree first location := fun reaches => by
        have same := alone first List.mem_cons_self reaches
        have other := apart file later
        simp only [FilePath.same, beq_iff_eq, beq_eq_false_iff_ne] at same other
        exact other same.symm
      rw [List.filter_cons_of_neg (by simpa using aside)]
      exact ih distinctRest later fun other inside => alone other (List.mem_cons_of_mem first inside)

/-- The entries for a file are the same in both ways. -/
theorem Orderly.ownAt_eq (orderly : project.Orderly tree registrations)
    (shared : project.IsShared tree (singleGroups registrations) location) :
    project.ownAt tree (singleGroups registrations) location =
      project.ownAt tree (fileGroups registrations (distinctFiles (registrations.map (·.file))))
        location := by
  have single : project.ownAt tree (singleGroups registrations) location =
      registrations.filter fun registration => project.Leads tree registration.file location := by
    unfold ownAt singleGroups
    rw [List.filter_map, List.flatMap_map]
    exact List.flatMap_singleton' _
  obtain ⟨⟨registration, own, leads⟩, content, there⟩ := isShared_singleGroups.mp shared
  obtain ⟨file, member, same⟩ := exists_distinctFiles (List.mem_map_of_mem (f := (·.file)) own)
  obtain ⟨other, ownToo, rfl⟩ := List.mem_map.mp (mem_distinctFiles member)
  have leadsToo :=
    (orderly.alike registration own other ownToo location content leads there).mpr same
  have alone : ∀ file ∈ distinctFiles (registrations.map (·.file)),
      project.Leads tree file location → FilePath.same other.file file = true := by
    intro file inside reaches
    obtain ⟨third, ownThird, rfl⟩ := List.mem_map.mp (mem_distinctFiles inside)
    exact (orderly.alike other ownToo third ownThird location content leadsToo there).mp reaches
  have batch : project.ownAt tree
      (fileGroups registrations (distinctFiles (registrations.map (·.file)))) location =
      registrations.filter fun registration => FilePath.same registration.file other.file := by
    unfold ownAt fileGroups
    rw [List.filter_map]
    show (((distinctFiles (registrations.map (·.file))).filter fun file =>
      project.Leads tree file location).map _).flatMap _ = _
    rw [filter_leads (pairwise_distinctFiles _) member leadsToo alone]
    simp
  rw [single, batch]
  refine List.filter_congr fun third inside => ?_
  have alike := orderly.alike other ownToo third inside location content leadsToo there
  rw [Bool.eq_iff_iff, decide_eq_true_eq, alike]
  simp only [FilePath.same, beq_iff_eq]
  exact eq_comm

/-- Adding orderly entries file by file goes well exactly if adding them one at a time does, and then
to the same files. -/
theorem Orderly.adds_alike (writes : project.dryRun = false) (wellFormed : tree.WellFormed)
    (orderly : project.Orderly tree registrations) :
    ((∃ changed reports, project.addAllEntries registrations tree
        (distinctFiles (registrations.map (·.file))) = (changed, .ok reports)) ↔
      ∃ changed reports, project.addEach tree registrations = (changed, .ok reports)) ∧
    ∀ changed reports last more, project.addAllEntries registrations tree
        (distinctFiles (registrations.map (·.file))) = (changed, .ok reports) →
      project.addEach tree registrations = (last, .ok more) →
      ∀ place, changed.node? place = last.node? place := by
  have single : project.Suited tree (singleGroups registrations) := by
    refine orderly.suited wellFormed fun group member => ?_
    obtain ⟨registration, own, rfl⟩ := List.mem_map.mp member
    exact ⟨⟨registration, own, rfl⟩, by simpa using own⟩
  have batch : project.Suited tree
      (fileGroups registrations (distinctFiles (registrations.map (·.file)))) := by
    refine orderly.suited wellFormed fun group member => ?_
    obtain ⟨file, listed, rfl⟩ := List.mem_map.mp member
    obtain ⟨registration, own, rfl⟩ := List.mem_map.mp (mem_distinctFiles listed)
    exact ⟨⟨registration, own, rfl⟩, fun _ inside => (List.mem_filter.mp inside).1⟩
  have shared : ∀ location, project.IsShared tree (singleGroups registrations) location ↔
      project.IsShared tree
        (fileGroups registrations (distinctFiles (registrations.map (·.file)))) location :=
    fun location => isShared_singleGroups.trans orderly.isShared_fileGroups.symm
  have same := fun location => @Orderly.ownAt_eq project tree location registrations orderly
  have fromSingle : ∀ {last}, project.Adds tree (singleGroups registrations) last → _ := fun adds =>
    adds_agree writes wellFormed single batch shared same adds
  have fromBatch : ∀ {changed}, project.Adds tree
      (fileGroups registrations (distinctFiles (registrations.map (·.file)))) changed → _ :=
    fun adds => adds_agree writes wellFormed batch single (fun location => (shared location).symm)
      (fun location inside => (same location ((shared location).mpr inside)).symm) adds
  refine ⟨⟨?_, ?_⟩, ?_⟩
  · rintro ⟨changed, done⟩
    obtain ⟨last, adds, -⟩ := fromBatch (adds_fileGroups.mpr done)
    exact ⟨last, adds_singleGroups.mp adds⟩
  · rintro ⟨last, done⟩
    obtain ⟨changed, adds, -⟩ := fromSingle (adds_singleGroups.mpr done)
    exact ⟨changed, adds_fileGroups.mp adds⟩
  · intro changed reports last more done doneEach
    obtain ⟨-, -, agree⟩ := fromBatch (adds_fileGroups.mpr ⟨reports, done⟩)
    exact agree last (adds_singleGroups.mpr ⟨more, doneEach⟩)

/-- **One reading and one writing is as good as one for each entry.** Inserting lines into a text
that is read once gives the same answers and the same text as reading and saving it anew for each of
the entries, whatever their files are. And in a tree where their files do not get in each other's
way, adding the entries file by file goes well exactly if adding them one at a time does, and then to
the same files. -/
theorem batch_as_good (lined : ∀ registration ∈ registrations, registration.Lined) :
    (∀ (path : FilePath) (text : Text), text ≠ [] → '\x0d' ∉ text →
      insertEach path text registrations =
        (insertAll path (ofText text) registrations).map fun (updated, reports) =>
          (updated.toText, reports)) ∧
    ∀ (project : Project) (tree : Tree), project.dryRun = false → tree.WellFormed →
      project.Orderly tree registrations →
      ((∃ changed reports, project.addAllEntries registrations tree
          (distinctFiles (registrations.map (·.file))) = (changed, .ok reports)) ↔
        ∃ changed reports, project.addEach tree registrations = (changed, .ok reports)) ∧
      ∀ changed reports last more, project.addAllEntries registrations tree
          (distinctFiles (registrations.map (·.file))) = (changed, .ok reports) →
        project.addEach tree registrations = (last, .ok more) →
        ∀ place, changed.node? place = last.node? place := by
  refine ⟨fun path text filled clean => ?_, fun project tree writes wellFormed orderly =>
    orderly.adds_alike writes wellFormed⟩
  have whole := @insertEach_toText path (ofText text) registrations (stable_ofText filled clean) lined
  rwa [saved_of_clean filled clean] at whole

/-- An entry of one word in a list. -/
def listEntry (file : FilePath) (word : Text) : Registration :=
  { file, region := "list", anchor := .classEnd
    entry := { key := word, lines := [word], presence := .occurs word } }

/-- A file with a list of some words. -/
def listOf (words : List Text) : Text :=
  ("// modforge:begin list\n" : Text) ++
    words.flatMap (fun word => Marker.entry word ++ '\n' :: word ++ ['\n']) ++
    ("// modforge:end list\n" : Text)

/-- Two files with lists. -/
def twoLists (first second : List Text) : Tree :=
  ⟨[(["one"], .file (.text (listOf first))), (["two"], .file (.text (listOf second)))]⟩

/-- Three words for two lists, in turn. -/
def threeWords : List Registration :=
  [listEntry "one" "red", listEntry "two" "green", listEntry "one" "blue"]

/-- Two lists that lie in different files are orderly. -/
theorem orderly_threeWords : standardProject.Orderly (twoLists [] []) threeWords := by
  have names : ∀ registration ∈ threeWords,
      registration.file = "one" ∧ (twoLists [] []).locate standardProject.start
        (standardProject.pathOf registration.file) = .ok ["one"] ∨
      registration.file = "two" ∧ (twoLists [] []).locate standardProject.start
        (standardProject.pathOf registration.file) = .ok ["two"] := by
    decide
  have places : ∀ registration ∈ threeWords, ∀ location,
      standardProject.Leads (twoLists [] []) registration.file location →
      registration.file = "one" ∧ location = (["one"] : List Text) ∨
      registration.file = "two" ∧ location = (["two"] : List Text) := by
    intro registration member location leads
    rw [Leads] at leads
    rcases names registration member with ⟨file, found⟩ | ⟨file, found⟩ <;>
      rw [found, Except.ok.injEq] at leads
    · exact .inl ⟨file, leads.symm⟩
    · exact .inr ⟨file, leads.symm⟩
  refine ⟨?_, ?_, ?_, ?_⟩
  · have single : ∀ registration ∈ threeWords, ('\n' ∉ registration.region ∧
        '\x0d' ∉ registration.region) ∧ ('\n' ∉ registration.entry.key ∧
        '\x0d' ∉ registration.entry.key) ∧ ∀ line ∈ registration.entry.lines,
        '\n' ∉ line ∧ '\x0d' ∉ line := by
      decide
    intro registration member
    obtain ⟨region, key, lines⟩ := single registration member
    exact ⟨region, key, lines⟩
  · intro registration member location content leads there
    have text : some (Node.file (.text (listOf []))) = some (.file content) := by
      rcases places registration member location leads with ⟨-, rfl⟩ | ⟨-, rfl⟩ <;> exact there
    refine ⟨listOf [], by simpa using text.symm, by decide, by decide⟩
  · intro registration member other memberToo location content leads there
    have same : ∀ registration ∈ threeWords, ∀ other ∈ threeWords,
        (FilePath.same registration.file other.file = true ↔ registration.file = other.file) ∧
        ((twoLists [] []).locate standardProject.start
          (standardProject.pathOf other.file) = (twoLists [] []).locate standardProject.start
            (standardProject.pathOf registration.file) ↔ registration.file = other.file) := by
      decide
    obtain ⟨first, second⟩ := same registration member other memberToo
    rw [first, ← second, Leads, show (twoLists [] []).locate standardProject.start
      (standardProject.pathOf registration.file) = .ok location from leads]
  · have copies : ∀ registration ∈ threeWords, ∀ other ∈ threeWords,
        (twoLists [] []).locate standardProject.start
          (backupPath (standardProject.pathOf registration.file)) ≠
        (twoLists [] []).locate standardProject.start (standardProject.pathOf other.file) := by
      decide
    intro registration member other memberToo location copied leads
    exact copies registration member other memberToo (copied.trans leads.symm)

/-- Three words are added to one list, and to two. -/
theorem batch_as_good_lists :
    insertEach "one" (listOf []) threeWords =
      .ok (listOf ["red", "green", "blue"],
        [⟨"one", "red", .inserted⟩, ⟨"one", "green", .inserted⟩, ⟨"one", "blue", .inserted⟩]) ∧
    standardProject.Orderly (twoLists [] []) threeWords ∧ ∃ changed reports last more,
      standardProject.addAllEntries threeWords (twoLists [] [])
        (distinctFiles (threeWords.map (·.file))) = (changed, .ok reports) ∧
      standardProject.addEach (twoLists [] []) threeWords = (last, .ok more) ∧
      ∀ place, changed.node? place = last.node? place := by
  have batch : standardProject.addAllEntries threeWords (twoLists [] [])
      (distinctFiles (threeWords.map (·.file))) = (twoLists ["red", "blue"] ["green"],
        .ok [⟨"one", "red", .inserted⟩, ⟨"one", "blue", .inserted⟩, ⟨"two", "green", .inserted⟩]) :=
    by decide +kernel
  have whole : (insertAll "one" (ofText (listOf [])) threeWords).map (fun (updated, reports) =>
      (updated.toText, reports)) = .ok (listOf ["red", "green", "blue"],
        [⟨"one", "red", .inserted⟩, ⟨"one", "green", .inserted⟩, ⟨"one", "blue", .inserted⟩]) := by
    decide +kernel
  obtain ⟨text, trees⟩ := batch_as_good orderly_threeWords.lined
  obtain ⟨together, same⟩ := trees standardProject _ rfl (by decide +kernel) orderly_threeWords
  obtain ⟨last, more, each⟩ := together.mp ⟨_, _, batch⟩
  exact ⟨(text "one" _ (by decide) (by decide)).trans whole, orderly_threeWords, _, _, last, more,
    batch, each, same _ _ last more batch each⟩

/-- A project in which one shared file is the copy of another one, and a third one the copy of that. -/
def copiesProject : Project :=
  { standardProject with
    layout := { Layout.standard with
      routes := "app/Models/Pump.php"
      permissionSeeder := "app/Models/Pump.php.bak"
      navigation := "app/Models/Pump.php.bak.bak" } }

/-- Its files: routes in a model, permissions beside it, and another file beside these. -/
def copiesTree : Tree :=
  ⟨[(["app"], .directory), (["app", "Models"], .directory),
    (["app", "Models", "Pump.php"],
      .file (.text "<?php\nRoute::resource('valves', Valves::class);\nclass Pump\n\x7b\n\x7d\n")),
    (["app", "Models", "Pump.php.bak"], .file (.text "$permissions = [\n];\n")),
    (["app", "Models", "Pump.php.bak.bak"], .file (.text "by hand\n"))]⟩

/-- Valves that belong to pumps. -/
def pumpValves : Plan :=
  Plan.ofOptions { displayName := "Valve", relationships := "pump:belongsTo:Pump" }

/-- Where one shared file is the copy of another one, the two ways end differently: entry by entry,
the permissions are added before their file is lost, and its own copy is lost with that. And a path
with a slash at its end is the same path as without, but leads to no file. -/
theorem batch_with_copies :
    ((copiesProject.addAllEntries (copiesProject.pending copiesTree pumpValves) copiesTree
        (distinctFiles ((copiesProject.pending copiesTree pumpValves).map (·.file)))).1.node?
          ["app", "Models", "Pump.php.bak.bak"] = some (.file (.text "by hand\n")) ∧
      (copiesProject.addEach copiesTree (copiesProject.pending copiesTree pumpValves)).1.node?
          ["app", "Models", "Pump.php.bak.bak"] = none) ∧
    (standardProject.addAllEntries [listEntry "one" "red", listEntry "one/" "blue"]
        (twoLists [] []) (distinctFiles ["one", "one/"])).1.node? ["one"] =
      some (.file (.text (listOf ["red", "blue"]))) ∧
    (standardProject.addEach (twoLists [] [])
        [listEntry "one" "red", listEntry "one/" "blue"]).1.node? ["one"] =
      some (.file (.text (listOf ["red"]))) := by
  unfold copiesProject copiesTree pumpValves standardProject listEntry twoLists listOf Layout.standard
  simp (disch := exact rfl) only [Text.toList_literal, -String.reduceToList]
  decide +kernel

end Project

end Scaffold
