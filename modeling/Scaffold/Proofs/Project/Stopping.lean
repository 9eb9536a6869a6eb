import Mathlib.Data.List.Forall2
import Scaffold.Proofs.Project.Rehearsal

/-!
# Where an installation stops

An installation that fails stops at one file. If that is an artifact, those before it are written,
and no other file changed (`Project.StopsAtArtifact`). If it is a shared file, all artifacts are
written, the shared files before it hold the texts that all their entries make, and it and those
behind it are what they were (`Project.StopsAtShared`). There is no third way
(`Project.stops_cleanly`).

Nothing is lost in the middle of a replacement: writing over a file that is there and removing its
copy do not fail in a tree, so only making the copy may (`Project.replace_error`).
-/
namespace Scaffold

open FilePath

namespace Plan

variable {plan : Plan} {source : TemplateSource} {tree : Tree} {start : Location}

/-- The output has every artifact at most once. -/
theorem nodup_output : ((plan.output source tree start).files.map (·.artifact)).Nodup := by
  have distinct : (Artifact.ofPlan plan).Nodup := by
    unfold Artifact.ofPlan Artifact.detailOf
    split <;> decide
  exact distinct.sublist sublist_output

end Plan

namespace Tree

/-- A place holds a file in a tree exactly if it holds the same file in another one. -/
def SameFileAt (tree other : Tree) (place : Location) : Prop :=
  ∀ content, other.node? place = some (.file content) ↔ tree.node? place = some (.file content)

variable {tree other last : Tree} {start place : Location} {path : FilePath}

/-- The files stay while a tree grows. -/
theorem GrowsTo.sameFileAt (grows : tree.GrowsTo other) (place : Location) :
    tree.SameFileAt other place := by
  intro content
  rcases grows place with same | ⟨missing, directory⟩
  · rw [same]
  · rw [missing, directory]
    simp

/-- What holds the same file as something that does not change holds the same file. -/
theorem SameFileAt.trans (first : tree.SameFileAt other place)
    (second : other.SameFileAt last place) : tree.SameFileAt last place :=
  fun content => (second content).trans (first content)

/-- The text of a file can be read unless the file holds no text. -/
theorem readText_error (isFile : tree.isFile start path = true) {fault : FileFault}
    (stopped : tree.readText start path = .error fault) : fault = .noText := by
  obtain ⟨location, content, reached, there⟩ := isFile_iff.mp isFile
  have read : tree.read start path = .ok content := read_ok.mpr ⟨location, reached, there⟩
  unfold readText at stopped
  rw [read] at stopped
  cases content with
  | text written => exact absurd stopped (by simp [bind, Except.bind, pure, Except.pure])
  | bytes raw => exact (Except.error.inj stopped).symm

end Tree

namespace Project

open Scaffold.Tree

variable {project : Project} {tree current changed : Tree} {moment : Moment} {plan : Plan}
  {location : Location} {failure : Failure}

/-! ### The failing step -/

/-- What a failure at an artifact tells, given the tree that the artifact was to be written in. -/
inductive ConcernsArtifact (project : Project) (tree : Tree) (moment : Moment) (file : OutputFile) :
    Failure → Prop
  /-- The pattern that looks for an earlier migration is not well formed. -/
  | search (kind : file.artifact = .migration)
      (unaimed : project.target tree moment file = .error .configuration) :
      ConcernsArtifact project tree moment file .configuration
  /-- Its directory cannot be made. -/
  | directory {path fault} (aimed : project.target tree moment file = .ok path) :
      ConcernsArtifact project tree moment file
        (.file ((parent? (project.pathOf path)).getD []) fault)
  /-- It cannot be written. -/
  | content {path fault} (aimed : project.target tree moment file = .ok path) :
      ConcernsArtifact project tree moment file (.file (project.pathOf path) fault)

/-- What a failure at a shared file tells. -/
inductive ConcernsShared (project : Project) (file : FilePath) : Failure → Prop
  /-- The file is no text. -/
  | unreadable : ConcernsShared project file (.file (project.pathOf file) .noText)
  /-- An entry has no place to look for. -/
  | anchor (fault) : ConcernsShared project file (.anchor fault)
  /-- A directory lies where the copy would. -/
  | copy : ConcernsShared project file (.file (backupPath (project.pathOf file)) .isDirectory)

/-- Only the search for an earlier migration fails to give a path. -/
theorem target_error {file : OutputFile}
    (stopped : project.target tree moment file = .error failure) :
    project.ConcernsArtifact tree moment file failure := by
  have search : file.artifact = .migration ∧ failure = .configuration := by
    unfold target at stopped
    split at stopped
    · rename_i kind
      refine ⟨kind, ?_⟩
      simp only at stopped
      split at stopped
      · exact (Except.error.inj stopped).symm
      · split at stopped <;> simp at stopped
    · simp at stopped
  obtain ⟨kind, rfl⟩ := search
  exact .search kind stopped

/-- An artifact that cannot be written leaves nothing behind but directories. -/
theorem writeArtifact_error (writes : project.dryRun = false) (wellFormed : tree.WellFormed)
    (begins : tree.node? project.start = some .directory) {file : OutputFile} {path : FilePath}
    (aimed : project.target tree moment file = .ok path)
    (stopped : project.writeArtifact tree path file.content = (changed, .error failure)) :
    tree.GrowsTo changed ∧ project.ConcernsArtifact tree moment file failure := by
  unfold writeArtifact at stopped
  rw [if_neg (by simp [writes])] at stopped
  simp only at stopped
  rcases made : tree.makeDirectories project.start ((parent? (project.pathOf path)).getD [])
    with ⟨middle, none | fault⟩
  · obtain ⟨-, grows⟩ := makeDirectories_spec wellFormed begins made
    simp only [made] at stopped
    split at stopped
    · simp at stopped
    · obtain ⟨rfl, ⟨⟩⟩ := Prod.mk.inj stopped
      exact ⟨grows, .content aimed⟩
  · obtain ⟨-, grows⟩ := makeDirectories_spec wellFormed begins made
    simp only [made] at stopped
    obtain ⟨rfl, ⟨⟩⟩ := Prod.mk.inj stopped
    exact ⟨grows, .directory aimed⟩

/-- Replacing a file fails only before anything is written: if a directory lies where the copy
would. -/
theorem replace_error {path : FilePath} {content : Text} {old : FileContent}
    (wellFormed : tree.WellFormed) (reached : tree.locate project.start path = .ok location)
    (file : tree.node? location = some (.file old))
    (stopped : project.replace tree path content = (changed, .error failure)) :
    changed = tree ∧ failure = .file (backupPath path) .isDirectory := by
  by_cases directory : tree.node? (copyLocation location) = some .directory
  · have aside := wellFormed.locate_backupPath reached file
    have read : tree.read project.start path = .ok old := read_ok.mpr ⟨_, reached, file⟩
    have refused : tree.copy project.start path (backupPath path) = .error .isDirectory := by
      simp [copy, read, write, aside, isDirectoryAt, directory, bind, Except.bind, throw, throwThe,
        MonadExceptOf.throw]
    simp only [replace, refused] at stopped
    obtain ⟨rfl, same⟩ := Prod.mk.inj stopped
    exact ⟨rfl, (Except.error.inj same).symm⟩
  · obtain ⟨last, done⟩ := @exists_replace project tree location path content old wellFormed
      reached file directory
    rw [done] at stopped
    exact absurd (Prod.mk.inj stopped).2 (by simp)

/-- Insertions fail only for want of a place to look for. -/
theorem insertAll_error {path : FilePath} {file : SharedFile} {registrations : List Registration}
    (stopped : insertAll path file registrations = .error failure) :
    ∃ fault, failure = .anchor fault := by
  induction registrations generalizing file with
  | nil => simp [insertAll] at stopped
  | cons registration rest ih =>
    rw [insertAll] at stopped
    split at stopped
    · rename_i fault _
      exact ⟨fault, (Except.error.inj stopped).symm⟩
    · split at stopped
      · rename_i later
        obtain rfl := Except.error.inj stopped
        exact ih later
      · simp at stopped

/-- Adding entries to a file fails only before anything is written. -/
theorem addEntries_error (wellFormed : tree.WellFormed) {file : FilePath}
    {registrations : List Registration}
    (stopped : project.addEntries tree file registrations = (changed, .error failure)) :
    changed = tree ∧ project.ConcernsShared file failure := by
  unfold addEntries at stopped
  simp only at stopped
  split at stopped
  · simp at stopped
  · rename_i isFile
    have there : tree.isFile project.start (project.pathOf file) = true := by simpa using isFile
    split at stopped
    · rename_i fault unread
      obtain rfl := readText_error there unread
      obtain ⟨rfl, ⟨⟩⟩ := Prod.mk.inj stopped
      exact ⟨rfl, .unreadable⟩
    · rename_i before read
      obtain ⟨location, reached, found⟩ := readText_ok.mp read
      split at stopped
      · rename_i inserted
        obtain ⟨rfl, ⟨⟩⟩ := Prod.mk.inj stopped
        obtain ⟨fault, rfl⟩ := insertAll_error inserted
        exact ⟨rfl, .anchor fault⟩
      · split at stopped
        · simp at stopped
        · split at stopped
          · rename_i replaced
            obtain ⟨rfl, ⟨⟩⟩ := Prod.mk.inj stopped
            obtain ⟨rfl, rfl⟩ := replace_error wellFormed reached found replaced
            exact ⟨rfl, .copy⟩
          · simp at stopped

/-! ### The run up to it -/

/-- Artifacts fail at one of them, after those before it are written. -/
theorem writeArtifacts_error (writes : project.dryRun = false) {files : List OutputFile}
    (wellFormed : tree.WellFormed) (begins : tree.node? project.start = some .directory)
    (stopped : project.writeArtifacts moment tree files = (changed, .error failure)) :
    ∃ before file after current paths, files = before ++ file :: after ∧
      project.writeArtifacts moment tree before = (current, .ok paths) ∧
      current.GrowsTo changed ∧ project.ConcernsArtifact current moment file failure := by
  induction files generalizing tree with
  | nil => simp [writeArtifacts] at stopped
  | cons file rest ih =>
    rw [writeArtifacts] at stopped
    cases aimed : project.target tree moment file with
    | error fault =>
      simp only [aimed] at stopped
      obtain ⟨rfl, ⟨⟩⟩ := Prod.mk.inj stopped
      exact ⟨[], file, rest, tree, [], rfl, rfl, .refl tree, target_error aimed⟩
    | ok path =>
      rcases wrote : project.writeArtifact tree path file.content with ⟨middle, fault | ⟨⟩⟩
      · simp only [aimed, wrote] at stopped
        obtain ⟨rfl, ⟨⟩⟩ := Prod.mk.inj stopped
        obtain ⟨grows, concerns⟩ := writeArtifact_error writes wellFormed begins aimed wrote
        exact ⟨[], file, rest, tree, [], rfl, rfl, grows, concerns⟩
      · obtain ⟨whole, kept, -⟩ := writeArtifact_spec writes wellFormed begins wrote
        rcases others : project.writeArtifacts moment middle rest with ⟨last, fault | later⟩
        · simp only [aimed, wrote, others] at stopped
          obtain ⟨rfl, ⟨⟩⟩ := Prod.mk.inj stopped
          obtain ⟨before, next, after, current, paths, rfl, done, grows, concerns⟩ :=
            ih whole (kept _ begins) others
          exact ⟨file :: before, next, after, current, path :: paths, rfl,
            writeArtifacts_cons_ok.mpr ⟨path, middle, paths, aimed, wrote, done, rfl⟩, grows,
            concerns⟩
        · simp [aimed, wrote, others] at stopped

/-- Shared files fail at one of them, after entries were added to those before it. -/
theorem addAllEntries_error (writes : project.dryRun = false) {registrations : List Registration}
    {files : List FilePath} (wellFormed : tree.WellFormed)
    (stopped : project.addAllEntries registrations tree files = (changed, .error failure)) :
    ∃ before file after reports, files = before ++ file :: after ∧
      project.addAllEntries registrations tree before = (changed, .ok reports) ∧
      project.ConcernsShared file failure := by
  induction files generalizing tree with
  | nil => simp [addAllEntries] at stopped
  | cons file rest ih =>
    rw [addAllEntries] at stopped
    rcases added : project.addEntries tree file
      (registrations.filter fun registration => FilePath.same registration.file file)
      with ⟨middle, fault | first⟩
    · simp only [added] at stopped
      obtain ⟨rfl, ⟨⟩⟩ := Prod.mk.inj stopped
      obtain ⟨rfl, concerns⟩ := addEntries_error wellFormed added
      exact ⟨[], file, rest, [], rfl, rfl, concerns⟩
    · rcases others : project.addAllEntries registrations middle rest with ⟨last, fault | later⟩
      · simp only [added, others] at stopped
        obtain ⟨rfl, ⟨⟩⟩ := Prod.mk.inj stopped
        obtain ⟨before, next, after, reports, rfl, done, concerns⟩ :=
          ih (addEntries_spec writes wellFormed added).1 others
        exact ⟨file :: before, next, after, first ++ reports, rfl,
          addAllEntries_cons_ok.mpr ⟨middle, first, reports, added, done, rfl⟩, concerns⟩
      · simp [added, others] at stopped

/-- An installation fails at an artifact or, after all of them are written, at a shared file. -/
theorem install_error {output : Output}
    (stopped : project.install moment plan output tree = (changed, .error failure)) :
    project.writeArtifacts moment tree output.files = (changed, .error failure) ∨
    ∃ middle written, project.writeArtifacts moment tree output.files = (middle, .ok written) ∧
      project.addAllEntries (project.pending middle plan) middle
        (distinctFiles ((project.pending middle plan).map (·.file))) =
        (changed, .error failure) := by
  unfold install at stopped
  rcases wrote : project.writeArtifacts moment tree output.files with ⟨middle, fault | written⟩
  · simp only [wrote] at stopped
    obtain ⟨rfl, ⟨⟩⟩ := Prod.mk.inj stopped
    exact .inl rfl
  · rcases added : project.addAllEntries (project.pending middle plan) middle
      (distinctFiles ((project.pending middle plan).map (·.file))) with ⟨last, fault | reports⟩
    · simp only [wrote, added] at stopped
      obtain ⟨rfl, ⟨⟩⟩ := Prod.mk.inj stopped
      exact .inr ⟨middle, written, rfl, added⟩
    · simp [wrote, added] at stopped

/-! ### What is left by then -/

/-- A path of the project leads to a file with this text. -/
def HoldsText (project : Project) (tree : Tree) (path : FilePath) (content : Text) : Prop :=
  ∃ place, tree.locate project.start (project.pathOf path) = .ok place ∧
    tree.node? place = some (.file (.text content))

/-- Different artifacts do not have the same names. -/
theorem names_ne_of_artifacts (plain : plan.Plain) {artifact another : Artifact}
    {path other : FilePath} (first : ArtifactPlace plan artifact path)
    (second : ArtifactPlace plan another other) (distinct : artifact ≠ another) :
    activeNames (namesOf path) ≠ activeNames (namesOf other) := by
  obtain ⟨name, -, names, own⟩ := first.place
  obtain ⟨title, -, titles, ownToo⟩ := second.place
  intro same
  rw [names, titles] at same
  obtain ⟨folders, equal⟩ := List.append_inj' same rfl
  obtain rfl := (List.cons.inj equal).1
  by_cases kind : artifact = .migration
  · subst kind
    exact distinct (Artifact.eq_migration_of_folder plain folders.symm).symm
  · by_cases kindToo : another = .migration
    · subst kindToo
      exact distinct (Artifact.eq_migration_of_folder plain folders)
    · exact distinct (Artifact.eq_of_place plain folders ((own kind).symm.trans (ownToo kindToo)))

/-- Different artifacts do not lie at one place. -/
theorem locate_ne_of_artifacts (plain : plan.Plain) {artifact another : Artifact}
    {path other : FilePath} (first : ArtifactPlace plan artifact path)
    (second : ArtifactPlace plan another other) (distinct : artifact ≠ another)
    (leads : tree.locate project.start (project.pathOf path) = .ok location) :
    tree.locate project.start (project.pathOf other) ≠ .ok location := by
  intro again
  obtain ⟨name, -, names, -⟩ := first.place
  obtain ⟨title, -, titles, -⟩ := second.place
  exact names_ne_of_artifacts plain first second distinct
    (first.straight.names_of_locate second.straight (ne_nil_of_names names)
      (ne_nil_of_names titles) leads again)

/-- Written artifacts lie at their places and hold their contents. -/
theorem holdsText_writeArtifacts (writes : project.dryRun = false) (plain : plan.Plain)
    {files : List OutputFile} {written : List FilePath} (wellFormed : tree.WellFormed)
    (begins : tree.node? project.start = some .directory)
    (own : ∀ file ∈ files, file.path = file.artifact.path plan)
    (distinct : (files.map (·.artifact)).Nodup)
    (done : project.writeArtifacts moment tree files = (changed, .ok written)) :
    List.Forall₂ (fun file path => ArtifactPlace plan file.artifact path ∧
      project.HoldsText changed path file.content) files written := by
  induction files generalizing tree written with
  | nil =>
    obtain ⟨-, rfl⟩ : tree = changed ∧ [] = written := by simpa [writeArtifacts] using done
    exact .nil
  | cons file rest ih =>
    obtain ⟨path, middle, later, aimed, wrote, others, rfl⟩ := writeArtifacts_cons_ok.mp done
    obtain ⟨whole, kept, location, reached, puts⟩ :=
      writeArtifact_spec writes wellFormed begins wrote
    have ownRest := fun other member => own other (List.mem_cons_of_mem file member)
    rw [List.map_cons, List.nodup_cons] at distinct
    obtain ⟨-, keptLast, all, rfl, -, places, -, blank⟩ :=
      writeArtifacts_spec writes whole (kept _ begins) others
    have place := target_place plain (own file List.mem_cons_self) aimed
    -- No later artifact is written over the first one.
    have still : Written.contentAt? all location = none := by
      rw [Written.contentAt?_eq_none]
      intro artifact member here
      obtain ⟨source, listed, placeToo⟩ := artifactPlace_of_mem_written plain ownRest others
        artifact.path (List.mem_map_of_mem member)
      refine locate_ne_of_artifacts plain place placeToo (fun same => distinct.1 ?_)
        (keptLast.locate reached) (here ▸ (places artifact member).1)
      rw [same]
      exact List.mem_map_of_mem listed
    refine .cons ⟨place, location, keptLast.locate reached, ?_⟩
      (ih whole (kept _ begins) ownRest distinct.2 others)
    rcases blank location still with same | ⟨missing, -⟩
    · rw [same, puts.there]
    · rw [puts.there] at missing
      exact absurd missing (by simp)

/-- Where no artifact is written, files stay. -/
theorem sameFileAt_writeArtifacts (writes : project.dryRun = false) {files : List OutputFile}
    {written : List FilePath} (wellFormed : tree.WellFormed)
    (begins : tree.node? project.start = some .directory)
    (done : project.writeArtifacts moment tree files = (changed, .ok written))
    (apart : ∀ path ∈ written,
      changed.locate project.start (project.pathOf path) ≠ .ok location) :
    tree.SameFileAt changed location := by
  obtain ⟨-, -, all, rfl, -, places, -, blank⟩ := writeArtifacts_spec writes wellFormed begins done
  have none : Written.contentAt? all location = none := by
    rw [Written.contentAt?_eq_none]
    rintro artifact member rfl
    exact apart artifact.path (List.mem_map_of_mem member) (places artifact member).1
  intro content
  rcases blank location none with same | ⟨missing, directory⟩
  · rw [same]
  · rw [missing, directory]
    simp

/-- A shared file keeps its place while other files are edited: a file that lies there is what it
was. -/
theorem sameFileAt_addAllEntries (writes : project.dryRun = false)
    {registrations : List Registration} {reports : List EntryReport} {files : List FilePath}
    (wellFormed : tree.WellFormed) (shared : ∀ file ∈ files, plan.SharedPlace file)
    (done : project.addAllEntries registrations tree files = (changed, .ok reports))
    {file : FilePath} (own : plan.SharedPlace file)
    (other : ∀ earlier ∈ files, FilePath.same earlier file = false)
    (leads : changed.locate project.start (project.pathOf file) = .ok location) :
    tree.SameFileAt changed location := by
  have unchanged := addAllEntries_frame writes wellFormed done
    (fun earlier member reached => by
      have same := same_of_locate (shared earlier member) own reached leads
      rw [other earlier member] at same
      exact absurd same (by simp))
    fun earlier member => locate_backupPath_ne (shared earlier member) own leads
  intro content
  rw [unchanged]

/-- The file at a path holds the text that the entries for it make of the one that it held. -/
def HoldsSpliced (project : Project) (registrations : List Registration) (tree changed : Tree)
    (file : FilePath) : Prop :=
  ∀ place content, changed.locate project.start (project.pathOf file) = .ok place →
    tree.node? place = some (.file content) → ∃ text updated reports, content = .text text ∧
      insertAll file (SharedFile.ofText text)
        (registrations.filter fun registration => FilePath.same registration.file file) =
        .ok (updated, reports) ∧
      changed.node? place = some (.file (.text updated.toText))

/-- An installation stopped at an artifact, after those before it were written to these paths. -/
structure StopsAtArtifact (project : Project) (moment : Moment) (files : List OutputFile)
    (tree changed : Tree) (failure : Failure) (before : List OutputFile) (paths : List FilePath)
    (file : OutputFile) : Prop where
  /-- The artifacts before it. -/
  order : before ++ [file] <+: files
  /-- Those before it hold their contents. -/
  written : List.Forall₂ (fun own path => project.HoldsText changed path own.content) before paths
  /-- The failure is about the artifact, in the tree that those before it leave. -/
  concerns : ∃ current, project.writeArtifacts moment tree before = (current, .ok paths) ∧
    project.ConcernsArtifact current moment file failure
  /-- No other file changed. -/
  elsewhere : ∀ place,
    (∀ path ∈ paths, changed.locate project.start (project.pathOf path) ≠ .ok place) →
    tree.SameFileAt changed place

/-- An installation stopped at a shared file, after all artifacts were written to these paths, which
left a tree in between. -/
structure StopsAtShared (project : Project) (moment : Moment) (plan : Plan) (files : List OutputFile)
    (tree changed : Tree) (failure : Failure) (paths : List FilePath) (between : Tree)
    (before : List FilePath) (file : FilePath) (after : List FilePath) : Prop where
  /-- All artifacts were written. -/
  wrote : project.writeArtifacts moment tree files = (between, .ok paths)
  /-- They hold their contents. -/
  written : List.Forall₂ (fun own path => project.HoldsText changed path own.content) files paths
  /-- The shared files in the order in which entries name them first. -/
  order : distinctFiles ((project.pending between plan).map (·.file)) = before ++ file :: after
  /-- The failure is about the shared file. -/
  concerns : project.ConcernsShared file failure
  /-- Those before it hold the texts that all their entries make. -/
  spliced : ∀ own ∈ before, project.HoldsSpliced (project.pending between plan) tree changed own
  /-- It and those behind it are what they were. -/
  kept : ∀ own ∈ file :: after, ∀ place,
    changed.locate project.start (project.pathOf own) = .ok place → tree.SameFileAt changed place

/-- Writing the artifacts of an output stops at one of them. -/
theorem stops_at_artifact (writes : project.dryRun = false) (plain : plan.Plain)
    {files : List OutputFile} (wellFormed : tree.WellFormed)
    (begins : tree.node? project.start = some .directory)
    (own : ∀ file ∈ files, file.path = file.artifact.path plan)
    (distinct : (files.map (·.artifact)).Nodup)
    (stopped : project.writeArtifacts moment tree files = (changed, .error failure)) :
    ∃ before paths file,
      project.StopsAtArtifact moment files tree changed failure before paths file := by
  obtain ⟨before, file, after, current, paths, rfl, done, grows, concerns⟩ :=
    writeArtifacts_error writes wellFormed begins stopped
  rw [List.map_append, List.nodup_append] at distinct
  have held := holdsText_writeArtifacts writes plain wellFormed begins
    (fun own' member => own own' (List.mem_append_left _ member)) distinct.1 done
  refine ⟨before, paths, file,
    { order := ⟨after, by simp⟩
      written := held.imp fun own path ⟨_, place, reached, there⟩ =>
        ⟨place, grows.extends.locate reached, grows.node?_eq there⟩
      concerns := ⟨current, done, concerns⟩
      elsewhere := fun place apart => ?_ }⟩
  exact (sameFileAt_writeArtifacts writes wellFormed begins done fun path member reached =>
    apart path member (grows.extends.locate reached)).trans (grows.sameFileAt place)

/-- Adding the pending entries stops at a shared file. -/
theorem stops_at_shared (writes : project.dryRun = false) (plain : plan.Plain)
    (standard : project.layout = .standard)
    (targets : ∀ relationship ∈ plan.relationships, '/' ∉ relationship.target)
    {files : List OutputFile} (wellFormed : tree.WellFormed)
    (begins : tree.node? project.start = some .directory)
    (own : ∀ file ∈ files, file.path = file.artifact.path plan)
    (distinct : (files.map (·.artifact)).Nodup) {between : Tree} {paths : List FilePath}
    (wrote : project.writeArtifacts moment tree files = (between, .ok paths))
    (stopped : project.addAllEntries (project.pending between plan) between
      (distinctFiles ((project.pending between plan).map (·.file))) = (changed, .error failure)) :
    ∃ before file after, project.StopsAtShared moment plan files tree changed failure paths between
      before file after := by
  obtain ⟨whole, -, -⟩ := writeArtifacts_spec writes wellFormed begins wrote
  obtain ⟨before, file, after, reports, split, done, concerns⟩ :=
    addAllEntries_error writes whole stopped
  have shared : ∀ own ∈ before ++ file :: after, plan.SharedPlace own := fun own member =>
    sharedPlace_of_mem_distinctFiles plain standard targets (split ▸ member)
  have sharedBefore := fun own member => shared own (List.mem_append_left _ member)
  have apart := pairwise_distinctFiles ((project.pending between plan).map (·.file))
  rw [split, List.pairwise_append] at apart
  obtain ⟨-, same⟩ := addAllEntries_wellFormed writes whole done
  have back : changed.Extends between := fun place => (same place).mp
  -- Artifacts lie elsewhere, so the shared files are what they were when entries are added.
  have early : ∀ own ∈ before ++ file :: after, ∀ {place},
      changed.locate project.start (project.pathOf own) = .ok place →
      tree.SameFileAt between place := by
    intro shares member place leads
    refine sameFileAt_writeArtifacts writes wellFormed begins wrote fun path written => ?_
    obtain ⟨source, -, located⟩ := artifactPlace_of_mem_written plain own wrote path written
    exact locate_ne_of_places located (shared shares member) (back.locate leads)
  have held := holdsText_writeArtifacts writes plain wellFormed begins own distinct wrote
  have written : List.Forall₂ (fun own path => project.HoldsText changed path own.content) files
      paths := by
    refine held.imp fun own path ⟨located, place, reached, there⟩ =>
      ⟨place, Extends.locate (fun place => (same place).mpr) reached, ?_⟩
    rw [node?_artifact_addAllEntries writes whole sharedBefore located reached done, there]
  have spliced : ∀ own ∈ before,
      project.HoldsSpliced (project.pending between plan) tree changed own := by
    intro own member place content leads there
    have still := (early own (List.mem_append_left _ member) leads content).mpr there
    obtain ⟨text, updated, answers, rfl, inserted, -, found⟩ := addAllEntries_text writes whole
      apart.1 done member still leads
      (fun other listed reached =>
        same_of_locate (sharedBefore other listed) (sharedBefore own member) reached leads)
      fun other listed =>
        locate_backupPath_ne (sharedBefore other listed) (sharedBefore own member) leads
    exact ⟨text, updated, answers, rfl, inserted, found⟩
  have kept : ∀ own ∈ file :: after, ∀ place,
      changed.locate project.start (project.pathOf own) = .ok place →
      tree.SameFileAt changed place := by
    intro own member place leads
    have listed := List.mem_append_right before member
    exact (early own listed leads).trans (sameFileAt_addAllEntries writes whole sharedBefore done
      (shared own listed) (fun earlier first => apart.2.2 earlier first own member) leads)
  exact ⟨before, file, after, wrote, written, split, concerns, spliced, kept⟩

/-- **Failures stop cleanly.** An installation that fails stopped at an artifact or at a shared
file. -/
theorem stops_cleanly (options : Options) (standard : project.layout = .standard)
    (targets : ∀ relationship ∈ (Plan.ofOptions options).relationships,
      '/' ∉ relationship.target)
    (writes : project.dryRun = false) (wellFormed : tree.WellFormed)
    (begins : tree.node? project.start = some .directory) (source : TemplateSource)
    (templates : Tree) (place : Location) (moment : Moment)
    (stopped : project.install moment (Plan.ofOptions options)
      ((Plan.ofOptions options).output source templates place) tree = (changed, .error failure)) :
    (∃ before paths file, project.StopsAtArtifact moment
      ((Plan.ofOptions options).output source templates place).files tree changed failure before
      paths file) ∨
    ∃ paths between before file after, project.StopsAtShared moment (Plan.ofOptions options)
      ((Plan.ofOptions options).output source templates place).files tree changed failure paths
      between before file after := by
  have plain := Plan.plain_ofOptions options
  generalize Plan.ofOptions options = plan at targets plain stopped ⊢
  have own : ∀ file ∈ (plan.output source templates place).files,
      file.path = file.artifact.path plan := fun file => Plan.path_of_mem_output
  rcases install_error stopped with unwritten | ⟨between, paths, wrote, unspliced⟩
  · exact .inl (stops_at_artifact writes plain wellFormed begins own Plan.nodup_output unwritten)
  · exact .inr ⟨paths, between, stops_at_shared writes plain standard targets wellFormed begins own
      Plan.nodup_output wrote unspliced⟩

/-- A tree with a seeder of permissions that is no text, and a file of routes. -/
def brokenSeeder (routes : Text) : Tree :=
  ⟨[([("database" : Text)], .directory), (["database", "seeders"], .directory),
    (["database", "seeders", "PermissionSeeder.php"], .file (.bytes [0xff])),
    (["routes"], .directory), (["routes", "web.php"], .file (.text routes))]⟩

/-- The routes of valves are added before the seeder of permissions is found to be no text. -/
theorem stops_cleanly_valves : ∃ changed,
    standardProject.install ⟨2026, 1, 1, 0, 0, 0⟩ (Plan.ofOptions { displayName := "Valve" })
        valveOutput (brokenSeeder plainRoutes) =
      (changed, .error (.file "./database/seeders/PermissionSeeder.php" .noText)) ∧
    changed.node? ["routes", "web.php"] = some (.file (.text valveRoutes)) ∧
    ((∃ before paths file, standardProject.StopsAtArtifact ⟨2026, 1, 1, 0, 0, 0⟩ valveOutput.files
        (brokenSeeder plainRoutes) changed
        (.file "./database/seeders/PermissionSeeder.php" .noText) before paths file) ∨
      ∃ paths between before file after, standardProject.StopsAtShared ⟨2026, 1, 1, 0, 0, 0⟩
        (Plan.ofOptions { displayName := "Valve" }) valveOutput.files (brokenSeeder plainRoutes)
        changed (.file "./database/seeders/PermissionSeeder.php" .noText) paths between before file
        after) := by
  have runs : (standardProject.install ⟨2026, 1, 1, 0, 0, 0⟩
      (Plan.ofOptions { displayName := "Valve" }) valveOutput (brokenSeeder plainRoutes)).2 =
        .error (.file "./database/seeders/PermissionSeeder.php" .noText) ∧
      (standardProject.install ⟨2026, 1, 1, 0, 0, 0⟩ (Plan.ofOptions { displayName := "Valve" })
        valveOutput (brokenSeeder plainRoutes)).1.node? ["routes", "web.php"] =
        some (.file (.text valveRoutes)) := by
    rw [install_valves rfl, files_valveOutput]
    unfold standardProject brokenSeeder plainRoutes valveRoutes valveEntries defaultIcon
    simp (disch := exact rfl) only [Text.toList_literal, -String.reduceToList]
    decide +kernel
  rcases ran : standardProject.install ⟨2026, 1, 1, 0, 0, 0⟩
    (Plan.ofOptions { displayName := "Valve" }) valveOutput (brokenSeeder plainRoutes)
    with ⟨changed, answer⟩
  rw [ran] at runs
  obtain ⟨rfl, spliced⟩ := runs
  exact ⟨changed, rfl, spliced, stops_cleanly { displayName := "Valve" } rfl (by decide +kernel) rfl
    (by decide +kernel) rfl (.directory "stubs") migrationStub [] ⟨2026, 1, 1, 0, 0, 0⟩ ran⟩

end Project

end Scaffold
