import Scaffold.Proofs.Project.Places

/-!
# Where artifacts are written

The path that an artifact is written to lies in its directory; only the name of a migration depends
on the clock and on what is there (`target_place`). So the shared files of a module have places of
their own (`ownPlace_of_standard`).
-/
namespace Scaffold

open FilePath

/-- A moment in front of a name is plain. -/
theorem plain_stamp (moment : Moment) : Text.IsPlain moment.stamp := by
  have padded : ∀ width value : Nat, Text.IsPlain (Moment.padded width value) := by
    intro width value
    refine Text.IsPlain.append (fun c inside => ?_) (Text.plain_ofNat value)
    rw [List.eq_of_mem_replicate inside]
    decide
  refine Text.IsPlain.joinWith (by unfold Text.IsPlain; decide) fun part member => ?_
  simp only [List.mem_cons, List.not_mem_nil, or_false] at member
  rcases member with rfl | rfl | rfl | rfl
  · exact padded 4 moment.year
  · exact padded 2 moment.month
  · exact padded 2 moment.day
  · exact ((padded 2 moment.hour).append (padded 2 moment.minute)).append (padded 2 moment.second)

namespace FilePath

/-- The file name of a path is the name of an entry. -/
theorem isName_of_fileName? {path : FilePath} {name : Text} (found : fileName? path = some name) :
    IsName name := by
  have last : (components path).getLast? = some (.name name) := by
    unfold fileName? at found
    split at found
    · rename_i own last
      rw [Option.some.injEq] at found
      rw [last, found]
    · simp at found
  have member := List.mem_of_getLast? last
  rcases List.mem_append.mp member with first | later
  · split at first
    · simp at first
    · split at first <;> simp at first
  · obtain ⟨piece, listed, same⟩ := List.mem_filterMap.mp later
    unfold component? at same
    split at same
    · simp at same
    · rename_i active
      split at same
      · simp at same
      · rename_i lower
        obtain rfl : piece = name := by simpa using same
        exact ⟨by simpa [isIdle] using active, lower, Text.notMem_of_mem_splitOn listed⟩

end FilePath

namespace Artifact

/-- The directory of migrations. -/
def migrationDirectory (plan : Plan) : FilePath :=
  FilePath.join plan.projectRoot ("database/migrations" : Text)

variable {plan : Plan}

/-- The names of the directory of migrations. -/
theorem namesOf_migrationDirectory (plan : Plan) : namesOf (migrationDirectory plan) =
    leadNames plan.projectRoot ++ (["database", "migrations"] : List Text) := by
  have relative : isAbsolute ("database/migrations" : Text) = false := by decide
  have names : namesOf ("database/migrations" : Text) = (["database", "migrations"] : List Text) := by
    decide
  rw [migrationDirectory, namesOf_join relative, names]

/-- The directory of migrations is straight. -/
theorem straight_migrationDirectory (plain : plan.Plain) : Straight (migrationDirectory plan) :=
  (Plan.straight_projectRoot plain).join (by decide)

/-- A name below the directory of migrations. -/
theorem names_inMigrations (plain : plan.Plain) {name : Text} (isName : IsName name) :
    Straight (FilePath.join (migrationDirectory plan) name) ∧
      activeNames (namesOf (FilePath.join (migrationDirectory plan) name)) =
        Artifact.migration.folder plan ++ [name] := by
  have active : activeNames (["database", "migrations"] : List Text) =
      (["database", "migrations"] : List Text) := by decide
  refine ⟨(straight_migrationDirectory plain).join (.of_isName isName), ?_⟩
  rw [activeNames_join isName.isAbsolute_eq, isName.activeNames_eq, namesOf_migrationDirectory,
    activeNames_append, activeNames_leadNames, active]
  rfl

/-- The migration lies in its directory, under its name. -/
theorem placeOf_migration (plain : plan.Plain) :
    Project.placeOf (Artifact.migration.path plan) =
      (migrationDirectory plan, Artifact.migration.fileName plan) := by
  have named := isName_fileName plain .migration
  have last : IsName ("migrations" : Text) := isName_of_isEnding (by decide)
  have split : namesOf (migrationDirectory plan) =
      (leadNames plan.projectRoot ++ (["database"] : List Text)) ++ [("migrations" : Text)] := by
    rw [namesOf_migrationDirectory, List.append_assoc]
    rfl
  have path : Artifact.migration.path plan =
      FilePath.join (migrationDirectory plan) (Artifact.migration.fileName plan) := rfl
  have names : namesOf (Artifact.migration.path plan) =
      leadNames (migrationDirectory plan) ++ [Artifact.migration.fileName plan] := by
    rw [path, namesOf_join named.isAbsolute_eq, named.namesOf_eq]
  rw [Project.placeOf, fileName?_of_split names named, path, parent?_join split last named]
  rfl

end Artifact

namespace Plan

variable {plan : Plan} {source : TemplateSource} {tree : Tree} {start : Location}

/-- An artifact of the output is made for its kind. -/
theorem outputFile_ok {artifact : Artifact} {file : OutputFile}
    (made : plan.outputFile source tree start artifact = .ok file) :
    file.artifact = artifact ∧ file.path = artifact.path plan := by
  unfold outputFile at made
  split at made
  · rw [Except.ok.injEq] at made
    subst made
    exact ⟨rfl, rfl⟩
  · simp at made

/-- The artifacts of the output lie on their paths. -/
theorem path_of_mem_output {file : OutputFile}
    (member : file ∈ (plan.output source tree start).files) :
    file.path = file.artifact.path plan := by
  obtain ⟨made, listed, found⟩ := List.mem_filterMap.mp member
  obtain ⟨artifact, -, rfl⟩ := List.mem_map.mp listed
  have succeeds : plan.outputFile source tree start artifact = .ok file := by
    cases made : plan.outputFile source tree start artifact with
    | error failure => simp [made, Except.toOption] at found
    | ok other => simpa [made, Except.toOption] using found
  obtain ⟨kind, path⟩ := outputFile_ok succeeds
  rw [path, kind]

/-- The output has the artifacts of a plan in their order. -/
theorem sublist_output : ((plan.output source tree start).files.map (·.artifact)).Sublist
    (Artifact.ofPlan plan) := by
  unfold output outputOf
  generalize Artifact.ofPlan plan = artifacts
  induction artifacts with
  | nil => exact .slnil
  | cons artifact rest ih =>
    simp only [List.map_cons, List.filterMap_cons]
    cases made : plan.outputFile source tree start artifact with
    | error failure => exact .cons artifact ih
    | ok file =>
      simp only [Except.toOption, List.map_cons, (outputFile_ok made).1]
      exact .cons_cons artifact ih

/-- Only the first artifact of the output may be a migration. -/
theorem migration_first {file : OutputFile}
    (member : file ∈ (plan.output source tree start).files.tail) : file.artifact ≠ .migration := by
  have others : ∀ artifact ∈ (Artifact.ofPlan plan).tail, artifact ≠ .migration := by
    unfold Artifact.ofPlan Artifact.detailOf
    split <;> decide
  have listed := List.mem_map_of_mem (f := OutputFile.artifact) member
  rw [List.map_tail] at listed
  exact others _ (sublist_output.tail.subset listed)

end Plan

/-- The place that an artifact is written to: in its directory, and under its name unless it is a
migration. -/
structure ArtifactPlace (plan : Plan) (artifact : Artifact) (path : FilePath) : Prop where
  /-- The path is straight. -/
  straight : Straight path
  /-- It leads to a file in the directory of the artifact. -/
  place : ∃ name, IsName name ∧ activeNames (namesOf path) = artifact.folder plan ++ [name] ∧
    (artifact ≠ .migration → name = artifact.fileName plan)

namespace Project

open Scaffold.Tree

variable {project : Project} {tree changed : Tree} {moment : Moment} {plan : Plan}
  {location : Location}

/-- The path of a migration is that of the first one that is there already, or has the time in
front. -/
theorem target_migration (plain : plan.Plain) {file : OutputFile} (kind : file.artifact = .migration)
    (own : file.path = file.artifact.path plan) {path : FilePath}
    (aimed : project.target tree moment file = .ok path) :
    ∃ found, Glob.find? tree project.start
        (project.migrationPattern (Artifact.migrationDirectory plan)
          (Artifact.migration.fileName plan)) = some found ∧
      path = FilePath.join (Artifact.migrationDirectory plan)
        (((FilePath.least? found).bind FilePath.fileName?).getD
          (moment.stamp ++ '_' :: Artifact.migration.fileName plan)) := by
  rw [kind] at own
  unfold target at aimed
  rw [if_pos kind, own, Artifact.placeOf_migration plain] at aimed
  simp only at aimed
  split at aimed
  · simp at aimed
  · rename_i found searched
    refine ⟨found, searched, ?_⟩
    split at aimed
    · rename_i existing first
      rw [first]
      simpa using aimed.symm
    · rename_i none
      rw [none]
      simpa using aimed.symm

/-- The name that a migration is written under is the name of an entry. -/
theorem isName_found (plain : plan.Plain) (found : List FilePath) (moment : Moment) :
    IsName (((FilePath.least? found).bind FilePath.fileName?).getD
      (moment.stamp ++ '_' :: Artifact.migration.fileName plan)) := by
  cases first : (FilePath.least? found).bind FilePath.fileName? with
  | some existing =>
    obtain ⟨least, -, named⟩ := Option.bind_eq_some_iff.mp first
    exact isName_of_fileName? named
  | none =>
    have table : '/' ∉ plan.names.table := plain.names.table.notMem (by decide)
    have stamp : '/' ∉ moment.stamp := (plain_stamp moment).notMem (by decide)
    have lead : '/' ∉ moment.stamp ++ '_' :: (("create_" : Text) ++ plan.names.table) := by
      simp [stamp, table]
    have whole := @isName_append _ "_table.php" lead (by decide)
    rw [List.append_assoc, List.cons_append] at whole
    exact whole

/-- Where an artifact is written. -/
theorem target_place (plain : plan.Plain) {file : OutputFile}
    (own : file.path = file.artifact.path plan) {path : FilePath}
    (aimed : project.target tree moment file = .ok path) :
    ArtifactPlace plan file.artifact path := by
  by_cases kind : file.artifact = .migration
  · obtain ⟨found, -, rfl⟩ := target_migration plain kind own aimed
    have isName := isName_found plain found moment
    rw [kind]
    obtain ⟨straight, names⟩ := Artifact.names_inMigrations plain isName
    exact ⟨straight, _, isName, names, fun other => absurd rfl other⟩
  · unfold target at aimed
    rw [if_neg kind, Except.ok.injEq] at aimed
    rw [← aimed, own]
    obtain ⟨straight, names⟩ := Artifact.names_path plain file.artifact
    exact ⟨straight, _, Artifact.isName_fileName plain file.artifact, names, fun _ => rfl⟩

/-- Every written path is the place of one of the artifacts. -/
theorem artifactPlace_of_mem_written (plain : plan.Plain) {files : List OutputFile}
    {written : List FilePath} (own : ∀ file ∈ files, file.path = file.artifact.path plan)
    (done : project.writeArtifacts moment tree files = (changed, .ok written)) :
    ∀ path ∈ written, ∃ file ∈ files, ArtifactPlace plan file.artifact path := by
  induction files generalizing tree written with
  | nil =>
    obtain ⟨-, rfl⟩ : tree = changed ∧ [] = written := by simpa [writeArtifacts] using done
    simp
  | cons file rest ih =>
    obtain ⟨path, middle, later, aimed, -, others, rfl⟩ := writeArtifacts_cons_ok.mp done
    intro other member
    rcases List.mem_cons.mp member with rfl | further
    · exact ⟨file, List.mem_cons_self, target_place plain (own file List.mem_cons_self) aimed⟩
    · obtain ⟨made, listed, place⟩ :=
        ih (fun file member => own file (List.mem_cons_of_mem _ member)) others other further
      exact ⟨made, List.mem_cons_of_mem file listed, place⟩

/-- No path of an artifact has the names of a shared file. -/
theorem names_ne_of_places {artifact : Artifact} {path file : FilePath}
    (written : ArtifactPlace plan artifact path) (shared : plan.SharedPlace file) :
    activeNames (namesOf path) ≠ activeNames (namesOf file) := by
  obtain ⟨name, -, names, own⟩ := written.place
  obtain ⟨front, last, split, isName, -, apart⟩ := shared.place
  intro same
  have active : activeNames [last] = [last] := by simp [activeNames, isName.active]
  rw [names, split, activeNames_append, active] at same
  obtain ⟨folder, equal⟩ := List.append_inj' same rfl
  obtain ⟨rfl, other⟩ := apart artifact folder
  rw [own (by decide), List.cons.injEq] at equal
  exact other equal.1

/-- A path with names is not empty. -/
theorem ne_nil_of_names {path : FilePath} {front : List Text} {name : Text}
    (names : activeNames (namesOf path) = front ++ [name]) : path ≠ [] := by
  rintro rfl
  have none : activeNames (namesOf []) = [] := by decide
  rw [none] at names
  simp at names

/-- No artifact lies where a shared file does. -/
theorem locate_ne_of_places {artifact : Artifact} {path file : FilePath}
    (written : ArtifactPlace plan artifact path) (shared : plan.SharedPlace file)
    (leads : tree.locate project.start (project.pathOf file) = .ok location) :
    tree.locate project.start (project.pathOf path) ≠ .ok location := by
  intro reached
  obtain ⟨title, -, names, -⟩ := written.place
  exact names_ne_of_places written shared (written.straight.names_of_locate shared.straight
    (ne_nil_of_names names) shared.ne_nil reached leads)

/-- Shared files at one place have the same path. -/
theorem same_of_locate {file other : FilePath} (shared : plan.SharedPlace file)
    (own : plan.SharedPlace other)
    (leads : tree.locate project.start (project.pathOf file) = .ok location)
    (again : tree.locate project.start (project.pathOf other) = .ok location) :
    FilePath.same file other = true :=
  (shared.straight.same_iff own.straight).mpr
    (shared.straight.names_of_locate own.straight shared.ne_nil own.ne_nil leads again)

/-- The last name of a place that a path with a name at its end leads to. -/
theorem getLast?_of_locate {start : Location} {path : FilePath} {front : List Text} {name : Text}
    (split : namesOf path = front ++ [name]) (isName : IsName name)
    (reached : tree.locate start path = .ok location) : location.getLast? = some name := by
  have filled : path ≠ [] := by
    rintro rfl
    simp [locate] at reached
  rw [locate_eq filled, split] at reached
  obtain ⟨middle, -, -, rfl⟩ := walk_concat_ok.mp reached
  rw [isName.step_eq, List.getLast?_concat]

/-- The names of a shared file of the project end with its name. -/
theorem namesOf_pathOf {file : FilePath} {front : List Text} {name : Text}
    (straight : Straight file) (split : namesOf file = front ++ [name]) :
    namesOf (project.pathOf file) = leadNames project.root ++ front ++ [name] := by
  rw [pathOf, namesOf_join straight.relative, split, List.append_assoc]

/-- The copy of a shared file does not lie where a shared file does. -/
theorem locate_backupPath_ne {file other : FilePath} (shared : plan.SharedPlace file)
    (own : plan.SharedPlace other)
    (leads : tree.locate project.start (project.pathOf other) = .ok location) :
    tree.locate project.start (backupPath (project.pathOf file)) ≠ .ok location := by
  intro reached
  obtain ⟨front, name, split, isName, noCopy, -⟩ := own.place
  obtain ⟨lead, title, cut, titled, -⟩ := shared.place
  have last := getLast?_of_locate (namesOf_pathOf own.straight split) isName leads
  have copied := namesOf_backupPath (@namesOf_pathOf project _ _ _ shared.straight cut) titled
  have ending := getLast?_of_locate copied titled.copy reached
  have bak : (".bak" : Text).getLast? = some 'k' := by decide
  rw [last, Option.some.injEq] at ending
  rw [ending, List.getLast?_append, bak, Option.some_or] at noCopy
  exact noCopy rfl

/-- The copy of a shared file is a file of the project, too. -/
theorem backupPath_pathOf {file : FilePath} (shared : plan.SharedPlace file) :
    backupPath (project.pathOf file) = project.pathOf (backupPath file) := by
  obtain ⟨front, name, split, isName, -⟩ := shared.place
  rw [backupPath_eq (@namesOf_pathOf project _ _ _ shared.straight split) isName,
    backupPath_eq split isName]
  have relative := shared.straight.relative
  obtain ⟨c, rest, rfl⟩ := List.exists_cons_of_ne_nil shared.ne_nil
  have longer : isAbsolute (c :: rest ++ ".bak") = false := relative
  unfold pathOf FilePath.join
  simp only [relative, longer]
  split
  · rfl
  · split
    · rw [List.append_assoc]
    · rw [List.append_assoc, List.cons_append]

/-- Its path is straight. -/
theorem straight_backupPath {file : FilePath} (shared : plan.SharedPlace file) :
    Straight (backupPath file) := by
  obtain ⟨front, name, split, isName, -⟩ := shared.place
  have straight := shared.straight
  have copied := namesOf_backupPath split isName
  refine ⟨?_, ?_, ?_⟩
  · obtain ⟨c, rest, same⟩ := List.exists_cons_of_ne_nil shared.ne_nil
    have relative := straight.relative
    rw [backupPath_eq split isName, same]
    rwa [same] at relative
  · have lower := straight.lower
    rw [split, List.mem_append, not_or] at lower
    rw [copied, List.mem_append, not_or]
    exact ⟨lower.1, by simpa using Ne.symm isName.copy.lower⟩
  · have named := straight.named
    rw [split] at named
    rw [copied]
    cases front with
    | nil => simpa using isName.copy.ne_point
    | cons first rest => exact named

/-- The copy of a shared file does not lie where an artifact is written. -/
theorem locate_backupPath_ne_artifact {artifact : Artifact} {path file : FilePath}
    (written : ArtifactPlace plan artifact path) (shared : plan.SharedPlace file)
    (leads : tree.locate project.start (project.pathOf path) = .ok location) :
    tree.locate project.start (backupPath (project.pathOf file)) ≠ .ok location := by
  intro reached
  rw [backupPath_pathOf shared] at reached
  obtain ⟨front, name, split, isName, -, apart⟩ := shared.place
  obtain ⟨title, -, names, own⟩ := written.place
  have copied := namesOf_backupPath split isName
  have filled : backupPath file ≠ [] := by
    rw [backupPath_eq split isName]
    simp
  have same := written.straight.names_of_locate (straight_backupPath shared)
    (ne_nil_of_names names) filled leads reached
  have active := isName.copy.activeNames_eq
  rw [isName.copy.namesOf_eq] at active
  rw [names, copied, activeNames_append, active] at same
  obtain ⟨folder, equal⟩ := List.append_inj' same rfl
  -- Of the artifacts only the model lies beside shared files, and its name ends otherwise.
  obtain ⟨rfl, -⟩ := apart artifact folder
  have written : title.getLast? = some 'p' := by
    have ending : (".php" : Text).getLast? = some 'p' := by decide
    rw [own (by decide)]
    exact (List.getLast?_append).trans (by rw [ending]; rfl)
  have copy : title.getLast? = some 'k' := by
    have ending : (".bak" : Text).getLast? = some 'k' := by decide
    rw [(List.cons.inj equal).1, List.getLast?_append, ending, Option.some_or]
  rw [written] at copy
  exact absurd copy (by decide)

/-- Adding entries leaves the artifacts as they were written. -/
theorem node?_artifact_addAllEntries (writes : project.dryRun = false) {files : List FilePath}
    (wellFormed : tree.WellFormed) (shared : ∀ file ∈ files, plan.SharedPlace file)
    {artifact : Artifact} {path : FilePath} (written : ArtifactPlace plan artifact path)
    (leads : tree.locate project.start (project.pathOf path) = .ok location)
    {registrations : List Registration} {reports : List EntryReport}
    (done : project.addAllEntries registrations tree files = (changed, .ok reports)) :
    changed.node? location = tree.node? location := by
  have kept : tree.Extends changed := fun place =>
    ((addAllEntries_wellFormed writes wellFormed done).2 place).mpr
  have reached := kept.locate leads
  refine addAllEntries_frame writes wellFormed done (fun file member again => ?_)
    fun file member => locate_backupPath_ne_artifact written (shared file member) reached
  exact locate_ne_of_places written (shared file member) again reached

section Standard

variable (plain : plan.Plain) (standard : project.layout = .standard)
  (targets : ∀ relationship ∈ plan.relationships, '/' ∉ relationship.target)
include plain standard targets

/-- The files that the model of an accessor is looked for in have places of shared files. -/
theorem sharedPlace_of_candidate {accessor : ReverseAccessor} (listed : accessor ∈ plan.accessors)
    {candidate : FilePath}
    (found : candidate ∈ plan.modelCandidates project.layout accessor.target) :
    plan.SharedPlace candidate := by
  have registers : plan.Registers project.layout (accessor.registration candidate) :=
    .inr ⟨accessor, listed, candidate, found, rfl⟩
  rw [standard] at registers
  exact registers.sharedPlace plain targets

/-- The files of the pending entries have places of shared files. -/
theorem sharedPlace_of_mem_distinctFiles {file : FilePath}
    (member : file ∈ distinctFiles ((project.pending tree plan).map (·.file))) :
    plan.SharedPlace file := by
  obtain ⟨registration, pending, rfl⟩ := List.mem_map.mp (mem_distinctFiles member)
  have registers := registers_of_mem_pending pending
  rw [standard] at registers
  exact registers.sharedPlace plain targets

end Standard

/-- **The shared files of a module have places of their own.** In a project of the standard layout,
no other shared file of the report leads to the place of one, no copy and no artifact. -/
theorem ownPlace_of_standard (plain : plan.Plain) (standard : project.layout = .standard)
    (targets : ∀ relationship ∈ plan.relationships, '/' ∉ relationship.target)
    {output : Output} (made : ∀ file ∈ output.files, file.path = file.artifact.path plan)
    {report : Report} (done : project.install moment plan output tree = (changed, .ok report))
    {file : FilePath} (listed : ∃ entry ∈ report.entries, entry.file = file)
    (leads : changed.locate project.start (project.pathOf file) = .ok location) :
    project.OwnPlace changed report file location := by
  obtain ⟨middle, written, reports, wrote, added, rfl⟩ := install_ok.mp done
  have shared : ∀ entry ∈ project.accessorWarnings middle plan ++ reports,
      plan.SharedPlace entry.file := by
    intro entry member
    rcases List.mem_append.mp member with warning | reported
    · obtain ⟨accessor, missing, rfl⟩ := List.mem_map.mp warning
      exact sharedPlace_of_candidate plain standard targets (List.mem_filter.mp missing).1
        (plan.modelFile_mem_modelCandidates project.layout accessor.target)
    · exact sharedPlace_of_mem_distinctFiles plain standard targets
        (file_of_mem_reports added reported)
  have own : plan.SharedPlace file := by
    obtain ⟨entry, member, rfl⟩ := listed
    exact shared entry member
  refine ⟨listed, leads, ?_, ?_, ?_⟩
  · exact fun entry member reached => same_of_locate (shared entry member) own reached leads
  · exact fun entry member => locate_backupPath_ne (shared entry member) own leads
  · intro path member
    obtain ⟨source, -, place⟩ := artifactPlace_of_mem_written plain made wrote path member
    exact locate_ne_of_places place own leads

end Project

end Scaffold
