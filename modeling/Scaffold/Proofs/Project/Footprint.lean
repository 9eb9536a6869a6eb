import Scaffold.Proofs.Project.Preservation

/-!
# What an installation touches

An installation touches its artifacts, the shared files that its report counts among the spliced
ones, and the places of the copies that lie beside shared files while entries are added to them
(`Project.Touches`). All other files are afterwards what they were before (`untouched_kept`). A file
that lay in the place of such a copy is lost (`copy_lost`).
-/
namespace Scaffold

/-- A text that is another one after it was read and saved: it is empty, or a carriage return stands
in front of a line feed. -/
def Text.ChangesWhenSaved (text : Text) : Prop := text = [] ∨ Text.returnFeed <:+: text

/-- Reading and saving gives all other texts back. -/
theorem SharedFile.toText_ofText {text : Text} (fine : ¬text.ChangesWhenSaved) :
    (ofText text).toText = text :=
  toText_ofText_iff.mpr (not_or.mp fine)

namespace Project

open Scaffold.Tree

variable {project : Project} {first tree changed : Tree} {registrations : List Registration}
  {reports early : List EntryReport}

/-- The contents of the artifacts that were written to a place, in their order. -/
def contentsAt (project : Project) (changed : Tree) (output : Output) (report : Report)
    (location : Location) : List Text :=
  ((report.written.zip (output.files.map (·.content))).filter fun artifact =>
    changed.locate project.start (project.pathOf artifact.1) = .ok location).map (·.2)

/-- A place holds a text when entries are added: the last artifact that was written there, or what
was there first if none was. -/
def HoldsWhenAdding (project : Project) (tree changed : Tree) (output : Output) (report : Report)
    (location : Location) (text : Text) : Prop :=
  (project.contentsAt changed output report location).getLast? = some text ∨
    project.contentsAt changed output report location = [] ∧
      tree.node? location = some (.file (.text text))

/-- The places that an installation may touch. -/
inductive Touches (project : Project) (tree changed : Tree) (output : Output) (report : Report) :
    Location → Prop
  /-- An artifact is written there. -/
  | written {path location} (listed : path ∈ report.written)
      (leads : changed.locate project.start (project.pathOf path) = .ok location) :
      Touches project tree changed output report location
  /-- A shared file with an entry lies there. -/
  | spliced {entry location} (listed : entry ∈ report.splices)
      (leads : changed.locate project.start (project.pathOf entry.file) = .ok location) :
      Touches project tree changed output report location
  /-- The copy of a shared file lies there while an entry is added. -/
  | copied {entry location} (listed : entry ∈ report.entries) (inserted : entry.result = .inserted)
      (leads : changed.locate project.start (project.pathOf entry.file) = .ok location) :
      Touches project tree changed output report (copyLocation location)
  /-- A shared file that saving alone changes lies there, or its copy meanwhile. -/
  | saved {entry location text place} (listed : entry ∈ report.entries)
      (leads : changed.locate project.start (project.pathOf entry.file) = .ok location)
      (held : project.HoldsWhenAdding tree changed output report location text)
      (changes : text.ChangesWhenSaved) (here : place = location ∨ place = copyLocation location) :
      Touches project tree changed output report place

/-- A shared file was edited at a place: an entry was added to it, or saving alone changes the text
that was there first. -/
def Edited (project : Project) (first : Tree) (reports : List EntryReport) (place : Location) :
    Prop :=
  ∃ report ∈ reports, first.locate project.start (project.pathOf report.file) = .ok place ∧
    (report.result = .inserted ∨
      ∃ text, first.node? place = some (.file (.text text)) ∧ text.ChangesWhenSaved)

/-- What was edited was edited in more reports, too. -/
theorem Edited.mono {more : List EntryReport} {place : Location}
    (edited : project.Edited first reports place) (among : reports ⊆ more) :
    project.Edited first more place := by
  obtain ⟨report, listed, about⟩ := edited
  exact ⟨report, among listed, about⟩

/-- Every place is accounted for: it is as it was first, or a shared file was edited there, or the
copy of such a file lay there and is gone. -/
def Accounted (project : Project) (first tree : Tree) (reports : List EntryReport) : Prop :=
  ∀ place, tree.node? place = first.node? place ∨ project.Edited first reports place ∨
    ∃ origin, place = copyLocation origin ∧ project.Edited first reports origin ∧
      tree.node? place = none

/-- A shared file that is replaced is reported as edited. -/
theorem edited_of_replaced {file : FilePath} {location : Location} {before : Text}
    {updated : SharedFile} (wanted : registrations ≠ [])
    (leads : first.locate project.start (project.pathOf file) = .ok location)
    (there : first.node? location = some (.file (.text before)))
    (inserted : insertAll file (SharedFile.ofText before) registrations = .ok (updated, reports))
    (other : updated.toText ≠ before) : project.Edited first reports location := by
  have about := map_insertAll inserted
  by_cases added : ∃ report ∈ reports, report.result = .inserted
  · obtain ⟨report, listed, result⟩ := added
    have named : (report.file, report.key) ∈ reports.map fun report => (report.file, report.key) :=
      List.mem_map.mpr ⟨report, listed, rfl⟩
    rw [about] at named
    obtain ⟨registration, -, same⟩ := List.mem_map.mp named
    obtain rfl : file = report.file := congrArg Prod.fst same
    exact ⟨report, listed, leads, .inl result⟩
  · -- Nothing was added, so saving alone changed the text.
    have unchanged : updated = SharedFile.ofText before :=
      insertAll_eq_of_none inserted fun report listed result => added ⟨report, listed, result⟩
    have changes : before.ChangesWhenSaved := Classical.byContradiction fun fine =>
      other (by rw [unchanged, SharedFile.toText_ofText fine])
    obtain ⟨registration, rest, rfl⟩ := List.exists_cons_of_ne_nil wanted
    obtain ⟨report, listed, same⟩ : ∃ report ∈ reports,
        (report.file, report.key) = (file, registration.entry.key) := by
      refine List.mem_map.mp ?_
      rw [about]
      exact List.mem_cons_self
    obtain rfl : report.file = file := congrArg Prod.fst same
    exact ⟨report, listed, leads, .inr ⟨before, there, changes⟩⟩

/-- Adding entries to a file keeps all places accounted for. -/
theorem Accounted.addEntries (writes : project.dryRun = false) (wellFormed : tree.WellFormed)
    (accounted : project.Accounted first tree early) (back : tree.Extends first)
    {file : FilePath} (wanted : registrations ≠ [])
    (done : project.addEntries tree file registrations = (changed, .ok reports)) :
    project.Accounted first changed (early ++ reports) := by
  have known : project.Accounted first tree (early ++ reports) := by
    intro place
    rcases accounted place with same | edited | ⟨origin, copy, edited, none⟩
    · exact .inl same
    · exact .inr (.inl (edited.mono (List.subset_append_left _ _)))
    · exact .inr (.inr ⟨origin, copy, edited.mono (List.subset_append_left _ _), none⟩)
  obtain ⟨-, ⟨-, rfl, -⟩ | ⟨location, before, updated, reached, there, inserted,
    ⟨-, rfl⟩ | ⟨other, replaces⟩⟩⟩ := addEntries_spec writes wellFormed done
  · exact known
  · exact known
  · have edited : project.Edited first (early ++ reports) location := by
      rcases known location with same | edited | ⟨-, -, -, none⟩
      · exact (edited_of_replaced wanted (back.locate reached) (same ▸ there) inserted other).mono
          (List.subset_append_right _ _)
      · exact edited
      · rw [there] at none
        exact absurd none (by simp)
    intro place
    by_cases here : place = location
    · exact .inr (.inl (here ▸ edited))
    · by_cases copy : place = copyLocation location
      · exact .inr (.inr ⟨location, copy, edited, copy ▸ replaces.gone⟩)
      · rw [replaces.elsewhere place here copy]
        exact known place

/-- Adding entries file by file keeps all places accounted for. -/
theorem Accounted.addAllEntries (writes : project.dryRun = false) {files : List FilePath}
    (wellFormed : tree.WellFormed) (accounted : project.Accounted first tree early)
    (back : tree.Extends first)
    (wanted : ∀ file ∈ files,
      ∃ registration ∈ registrations, FilePath.same registration.file file = true)
    (done : project.addAllEntries registrations tree files = (changed, .ok reports)) :
    project.Accounted first changed (early ++ reports) := by
  induction files generalizing tree early reports with
  | nil =>
    obtain ⟨rfl, rfl⟩ := addAllEntries_nil_ok.mp done
    rwa [List.append_nil]
  | cons file rest ih =>
    obtain ⟨middle, here, later, added, others, rfl⟩ := addAllEntries_cons_ok.mp done
    obtain ⟨registration, listed, same⟩ := wanted file List.mem_cons_self
    have own := List.ne_nil_of_mem (List.mem_filter.mpr ⟨listed, same⟩ :
      registration ∈ registrations.filter fun registration => FilePath.same registration.file file)
    have directories := directory_iff_addEntries writes wellFormed added
    rw [← List.append_assoc]
    exact ih (addEntries_spec writes wellFormed added).1
      (accounted.addEntries writes wellFormed back own added)
      (fun place there => back place ((directories place).mp there))
      (fun other member => wanted other (List.mem_cons_of_mem file member)) others

/-- The contents that were written to a place, read off the files that were written. -/
theorem contentsAt_written {middle : Tree} {output : Output} {all : List Written}
    (kept : middle.Extends changed)
    (contents : output.files.map (·.content) = all.map (·.content))
    (places : ∀ file ∈ all, middle.locate project.start (project.pathOf file.path) =
      .ok file.location) (place : Location) :
    project.contentsAt changed output ⟨all.map (·.path), reports⟩ place =
      (all.filter fun file => file.location = place).map (·.content) := by
  have same : ∀ file ∈ all, decide (changed.locate project.start (project.pathOf file.path) =
      .ok place) = decide (file.location = place) := by
    intro file member
    rw [kept.locate (places file member), decide_eq_decide, Except.ok.injEq]
  rw [contentsAt, contents, List.zip_map', List.filter_map, List.map_map]
  exact congrArg (List.map _) (List.filter_congr same)

/-- **An installation touches only its own files.** Every place that it does not touch holds a file
afterwards exactly if it held the same file before. -/
theorem untouched_kept {moment : Moment} {plan : Plan} {output : Output} {report : Report}
    (writes : project.dryRun = false) (wellFormed : tree.WellFormed)
    (begins : tree.node? project.start = some .directory)
    (done : project.install moment plan output tree = (changed, .ok report)) {location : Location}
    (apart : ¬project.Touches tree changed output report location) (content : FileContent) :
    changed.node? location = some (.file content) ↔ tree.node? location = some (.file content) := by
  obtain ⟨middle, written, reports, wrote, added, rfl⟩ := install_ok.mp done
  obtain ⟨whole, -, all, rfl, contents, places, filled, blank⟩ :=
    writeArtifacts_spec writes wellFormed begins wrote
  obtain ⟨-, same⟩ := addAllEntries_wellFormed writes whole added
  have kept : middle.Extends changed := fun place => (same place).mpr
  have wanted : ∀ file ∈ distinctFiles ((project.pending middle plan).map (·.file)),
      ∃ registration ∈ project.pending middle plan,
        FilePath.same registration.file file = true := by
    intro file member
    obtain ⟨registration, listed, rfl⟩ := List.mem_map.mp (mem_distinctFiles member)
    exact ⟨registration, listed, by simp [FilePath.same]⟩
  have nothing : project.Accounted middle middle [] := fun place => .inl rfl
  have accounted := Accounted.addAllEntries writes whole nothing (.refl middle) wanted added
  rw [List.nil_append] at accounted
  -- What an edited place held after the artifacts were written and before entries were added.
  have held : ∀ {place text}, middle.node? place = some (.file (.text text)) →
      project.HoldsWhenAdding tree changed output ⟨all.map (·.path), reports⟩ place text := by
    intro place text there
    have last := Written.contentAt?_eq_getLast? all place
    rw [← contentsAt_written kept contents fun artifact member => (places artifact member).1] at last
    cases found : Written.contentAt? all place with
    | some own =>
      obtain rfl : own = text := by
        rw [filled place own found] at there
        simpa using there
      exact .inl (last ▸ found)
    | none =>
      rw [found] at last
      rcases blank place found with same | ⟨-, directory⟩
      · exact .inr ⟨List.getLast?_eq_none_iff.mp last.symm, same ▸ there⟩
      · rw [there] at directory
        exact absurd directory (by simp)
  have none : Written.contentAt? all location = none := by
    rw [Written.contentAt?_eq_none]
    rintro artifact member rfl
    exact apart (.written (List.mem_map_of_mem member) (kept.locate (places artifact member).1))
  rcases accounted location with unchanged | ⟨entry, listed, leads, why⟩ |
    ⟨origin, rfl, ⟨entry, listed, leads, why⟩, -⟩
  · rw [unchanged]
    rcases blank location none with before | ⟨missing, directory⟩
    · rw [before]
    · rw [missing, directory]
      simp
  · refine absurd ?_ apart
    rcases why with inserted | ⟨text, there, changes⟩
    · refine .spliced (List.mem_filter.mpr ⟨List.mem_append_right _ listed, ?_⟩) (kept.locate leads)
      simp [EntryReport.isPlaced, inserted]
    · exact .saved (List.mem_append_right _ listed) (kept.locate leads) (held there) changes
        (.inl rfl)
  · refine absurd ?_ apart
    rcases why with inserted | ⟨text, there, changes⟩
    · exact .copied (List.mem_append_right _ listed) inserted (kept.locate leads)
    · exact .saved (List.mem_append_right _ listed) (kept.locate leads) (held there) changes
        (.inr rfl)

/-- A tree with a file of routes and another file beside it. -/
def routesBeside (name routes : Text) : Tree :=
  ⟨[(["routes"], .directory), (["routes", name], .file (.text "by hand\n")),
    (["routes", "web.php"], .file (.text routes))]⟩

/-- The place of the file of routes. -/
def routesPlace : Location := ["routes", "web.php"]

/-- The place of a file beside it. -/
def besidePlace : Location := ["routes", "web.php.orig"]

/-- A file beside the routes is left alone when the routes of valves are added. -/
theorem untouched_kept_beside :
    standardProject.install ⟨2026, 1, 1, 0, 0, 0⟩ (Plan.ofOptions { displayName := "Valve" })
        ⟨[], []⟩ (routesBeside "web.php.orig" plainRoutes) =
      (routesBeside "web.php.orig" valveRoutes, .ok (routesReport .inserted)) ∧
    ¬standardProject.Touches (routesBeside "web.php.orig" plainRoutes)
      (routesBeside "web.php.orig" valveRoutes) ⟨[], []⟩ (routesReport .inserted) besidePlace ∧
    (routesBeside "web.php.orig" valveRoutes).node? besidePlace =
      some (.file (.text "by hand\n")) := by
  have done : standardProject.install ⟨2026, 1, 1, 0, 0, 0⟩
      (Plan.ofOptions { displayName := "Valve" }) ⟨[], []⟩
      (routesBeside "web.php.orig" plainRoutes) =
        (routesBeside "web.php.orig" valveRoutes, .ok (routesReport .inserted)) := by
    rw [install_valves rfl]
    unfold standardProject routesBeside plainRoutes valveRoutes routesReport valveEntries defaultIcon
    simp (disch := exact rfl) only [Text.toList_literal, -String.reduceToList]
    decide +kernel
  -- The only file of the report that is there is the file of routes.
  have places : ∀ entry ∈ (routesReport .inserted).entries,
      ∀ location, (routesBeside "web.php.orig" valveRoutes).locate standardProject.start
        (standardProject.pathOf entry.file) = .ok location → location = routesPlace := by
    have found : ∀ entry ∈ (routesReport .inserted).entries,
        ((routesBeside "web.php.orig" valveRoutes).locate standardProject.start
          (standardProject.pathOf entry.file)).toOption.all (· == routesPlace) = true := by
      unfold standardProject routesBeside valveRoutes routesReport routesPlace
      simp (disch := exact rfl) only [Text.toList_literal, -String.reduceToList]
      decide +kernel
    intro entry listed location leads
    have here := found entry listed
    rw [leads] at here
    exact beq_iff_eq.mp here
  have others : besidePlace ≠ routesPlace ∧ besidePlace ≠ copyLocation routesPlace := by
    decide +kernel
  have apart : ¬standardProject.Touches (routesBeside "web.php.orig" plainRoutes)
      (routesBeside "web.php.orig" valveRoutes) ⟨[], []⟩ (routesReport .inserted) besidePlace := by
    generalize besidePlace = place at others
    rintro (⟨listed, -⟩ | ⟨listed, leads⟩ | ⟨listed, -, leads⟩ | ⟨listed, leads, -, -, aside⟩)
    · simp [routesReport] at listed
    · exact others.1 (places _ (List.mem_filter.mp listed).1 _ leads)
    · exact others.2 (congrArg copyLocation (places _ listed _ leads))
    · rw [places _ listed _ leads] at aside
      exact aside.elim others.1 others.2
  exact ⟨done, apart, (untouched_kept rfl (by decide +kernel) rfl done apart _).mpr rfl⟩

/-- A file that lies in the place of a copy is gone after an entry was added beside it. -/
theorem copy_lost :
    standardProject.install ⟨2026, 1, 1, 0, 0, 0⟩ (Plan.ofOptions { displayName := "Valve" })
        ⟨[], []⟩ (routesBeside "web.php.bak" plainRoutes) =
      (routesOnly valveRoutes, .ok (routesReport .inserted)) ∧
    (routesReport .inserted).written = [] ∧
    ∀ entry ∈ (routesReport .inserted).splices, entry.file = "routes/web.php" := by
  rw [install_valves rfl]
  unfold standardProject routesBeside routesOnly plainRoutes valveRoutes routesReport valveEntries
    defaultIcon
  simp (disch := exact rfl) only [Text.toList_literal, -String.reduceToList]
  decide +kernel

end Project

end Scaffold
