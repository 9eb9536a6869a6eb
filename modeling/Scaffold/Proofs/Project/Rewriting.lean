import Scaffold.Proofs.Project.Migration

/-!
# Writing the same artifacts again

Artifacts that were written last time are written once more to the same paths, whatever became of the
files since, as long as none of them is a directory now and no other migration came in between
(`writeArtifacts_same_paths`). Where the files are as they were written, the tree is the same in the
end (`writeArtifacts_again`).
-/
namespace Scaffold

open FilePath

/-- Something was written at the place of a written file. -/
theorem Written.exists_contentAt? {written : List Written} {file : Written} (member : file ∈ written) :
    ∃ content, contentAt? written file.location = some content := by
  rw [← Option.ne_none_iff_exists', ne_eq, contentAt?_eq_none]
  exact fun none => none file member rfl

namespace Project

open Scaffold.Tree

variable {project : Project} {tree changed : Tree} {moment : Moment} {plan : Plan}

/-- An entry that is put leaves the others. -/
theorem node?_put_of_ne {location place : Location} (other : place ≠ location) (node : Node) :
    (tree.put location node).node? place = tree.node? place := by
  rw [node?_put, if_neg other]
  split
  · rename_i root
    rw [root]
    rfl
  · rfl

/-- Writing a file where no directory is leaves the directories as they are. -/
theorem directory_put_iff {location : Location} (free : tree.node? location ≠ some .directory)
    (content : Text) (place : Location) :
    (tree.put location (.file (.text content))).node? place = some .directory ↔
      tree.node? place = some .directory := by
  refine ⟨fun there => ?_, extends_put free _ place⟩
  by_cases here : place = location
  · rw [node?_put, if_pos here] at there
    split at there
    · rename_i root
      rw [root]
      rfl
    · simp at there
  · rwa [node?_put_of_ne here] at there

/-- Writing a file where its directory is there, in a tree with the same directories as one in which
the place is known. -/
theorem writeArtifact_over (writes : project.dryRun = false) {last : Tree}
    (wellFormed : last.WellFormed) {file : FilePath} {location : Location}
    (leads : last.locate project.start (project.pathOf file) = .ok location)
    (free : last.node? location ≠ some .directory)
    (same : ∀ place, tree.node? place = some .directory ↔ last.node? place = some .directory)
    (content : Text) : project.writeArtifact tree file content =
      (tree.put location (.file (.text content)), .ok ()) := by
  obtain ⟨front, name, parent, split, isName, walked, directory, place⟩ :=
    wellFormed.locate_end leads free
  have kept : last.Extends tree := fun place => (same place).mpr
  have made : tree.makeDirectories project.start
      ((parent? (project.pathOf file)).getD []) = (tree, none) := by
    rw [makeDirectories_parent? split isName]
    exact makeAlong_of_walk (walk_mono kept walked) (kept parent directory)
  exact (writeArtifact_ok writes).mpr
    ⟨tree, location, made, kept.locate leads, fun there => free ((same location).mp there), rfl⟩

/-- Files that are no migrations are written to their own paths. -/
theorem written_eq_map {files : List OutputFile} (none : ∀ file ∈ files, file.artifact ≠ .migration)
    {written : List FilePath}
    (done : project.writeArtifacts moment tree files = (changed, .ok written)) :
    written = files.map (·.path) := by
  induction files generalizing tree written with
  | nil =>
    obtain ⟨-, rfl⟩ : tree = changed ∧ [] = written := by simpa [writeArtifacts] using done
    rfl
  | cons file rest ih =>
    obtain ⟨path, middle, later, aimed, -, others, rfl⟩ := writeArtifacts_cons_ok.mp done
    rw [target, if_neg (none file List.mem_cons_self), Except.ok.injEq] at aimed
    rw [List.map_cons, aimed, ih (fun other member => none other (List.mem_cons_of_mem _ member)) others]

/-- Files, none of which is a migration, are written over what is at their places, if that is no
directory. Other places stay. -/
theorem writeArtifacts_over (writes : project.dryRun = false) {last : Tree}
    (wellFormed : last.WellFormed) {files : List OutputFile} {all : List Written}
    (none : ∀ file ∈ files, file.artifact ≠ .migration)
    (paths : files.map (·.path) = all.map (·.path))
    (leads : ∀ file ∈ all, last.locate project.start (project.pathOf file.path) =
      .ok file.location ∧ last.node? file.location ≠ some .directory)
    (same : ∀ place, tree.node? place = some .directory ↔ last.node? place = some .directory) :
    ∃ next, project.writeArtifacts moment tree files = (next, .ok (files.map (·.path))) ∧
      ∀ place, (∀ file ∈ all, file.location ≠ place) → next.node? place = tree.node? place := by
  induction files generalizing tree all with
  | nil => exact ⟨tree, rfl, fun _ _ => rfl⟩
  | cons file files ih =>
    obtain ⟨first, others, rfl⟩ : ∃ first others, all = first :: others := by
      cases all with
      | nil => simp at paths
      | cons first others => exact ⟨first, others, rfl⟩
    rw [List.map_cons, List.map_cons, List.cons.injEq] at paths
    obtain ⟨⟨leadsFirst, free⟩, leadsOthers⟩ := List.forall_mem_cons.mp leads
    have wrote := writeArtifact_over writes wellFormed leadsFirst free same file.content
    have kept := directory_put_iff (fun there => free ((same _).mp there)) file.content
    obtain ⟨next, more, unchanged⟩ :=
      ih (fun other member => none other (List.mem_cons_of_mem _ member)) paths.2 leadsOthers
        fun place => (kept place).trans (same place)
    have aimed : project.target tree moment file = .ok first.path := by
      rw [target, if_neg (none file List.mem_cons_self), paths.1]
    refine ⟨next, writeArtifacts_cons_ok.mpr ⟨_, _, _, aimed, wrote, more,
      by rw [List.map_cons, paths.1]⟩, fun place elsewhere => ?_⟩
    obtain ⟨other, rest⟩ := List.forall_mem_cons.mp elsewhere
    exact (unchanged place rest).trans (node?_put_of_ne (Ne.symm other) _)

/-- **The same artifacts are written to the same paths again**, the migration included, if no place of
them is a directory now and no other migration came in between. Other places stay. -/
theorem writeArtifacts_same_paths (writes : project.dryRun = false) (wellFormed : tree.WellFormed)
    (begins : tree.node? project.start = some .directory)
    (climbs : tree.Climbs project.start project.root) (root : SearchRoot project.root)
    (plain : plan.Plain) {files : List OutputFile}
    (single : ∀ other ∈ files.tail, other.artifact ≠ .migration)
    (own : ∀ file ∈ files, file.path = file.artifact.path plan) {written : List FilePath}
    (done : project.writeArtifacts moment tree files = (changed, .ok written))
    {last : Tree} (whole : last.WellFormed) (kept : changed.Extends last)
    (same : ∀ parent name, Artifact.migrationEnding plan <:+ name →
      (last.node? (parent ++ [name]) ≠ none ↔ changed.node? (parent ++ [name]) ≠ none))
    {all : List Written} (paths : written = all.map (·.path))
    (leads : ∀ file ∈ all, last.locate project.start (project.pathOf file.path) =
      .ok file.location ∧ last.node? file.location ≠ some .directory) (again : Moment) :
    ∃ next, project.writeArtifacts again last files = (next, .ok written) ∧
      ∀ place, (∀ file ∈ all, file.location ≠ place) → next.node? place = last.node? place := by
  cases files with
  | nil =>
    obtain ⟨-, rfl⟩ : tree = changed ∧ [] = written := by simpa [writeArtifacts] using done
    exact ⟨last, rfl, fun _ _ => rfl⟩
  | cons file rest =>
    by_cases kind : file.artifact = .migration
    · obtain ⟨path, later, rfl, aimed⟩ := target_again writes wellFormed begins climbs root plain
        kind single own done whole kept same again
      obtain ⟨first, others, rfl⟩ : ∃ first others, all = first :: others := by
        cases all with
        | nil => simp at paths
        | cons first others => exact ⟨first, others, rfl⟩
      rw [List.map_cons, List.cons.injEq] at paths
      obtain ⟨rfl, ownPaths⟩ := paths
      obtain ⟨_, _, _, -, -, behind, equal⟩ := writeArtifacts_cons_ok.mp done
      obtain ⟨-, rfl⟩ := List.cons.inj equal
      rw [written_eq_map single behind] at ownPaths ⊢
      obtain ⟨⟨leadsFirst, free⟩, leadsOthers⟩ := List.forall_mem_cons.mp leads
      have wrote := writeArtifact_over writes whole leadsFirst free (fun _ => Iff.rfl) file.content
      obtain ⟨next, more, unchanged⟩ := @writeArtifacts_over _ _ again writes _ whole _ _ single
        ownPaths leadsOthers (directory_put_iff free file.content)
      refine ⟨next, writeArtifacts_cons_ok.mpr ⟨_, _, _, aimed, wrote, more, rfl⟩,
        fun place elsewhere => ?_⟩
      obtain ⟨other, rest⟩ := List.forall_mem_cons.mp elsewhere
      exact (unchanged place rest).trans (node?_put_of_ne (Ne.symm other) _)
    · have none : ∀ other ∈ file :: rest, other.artifact ≠ .migration := by
        intro other member
        rcases List.mem_cons.mp member with rfl | member
        · exact kind
        · exact single other member
      have ownPaths := written_eq_map none done
      rw [ownPaths] at paths ⊢
      exact writeArtifacts_over writes whole none paths leads fun _ => Iff.rfl

/-- Files written to the same paths with the same contents in one tree are the same. -/
theorem written_eq_of_places {first second : List Written} (paths : first.map (·.path) = second.map (·.path))
    (contents : first.map (·.content) = second.map (·.content))
    (places : ∀ file ∈ first, tree.locate project.start (project.pathOf file.path) =
      .ok file.location)
    (others : ∀ file ∈ second, tree.locate project.start (project.pathOf file.path) =
      .ok file.location) : first = second := by
  induction first generalizing second with
  | nil => exact (List.map_eq_nil_iff.mp paths.symm).symm
  | cons file rest ih =>
    obtain ⟨other, more, rfl, own, later⟩ := List.map_eq_cons_iff.mp paths.symm
    rw [List.map_cons, List.map_cons, List.cons.injEq] at contents
    obtain ⟨here, behind⟩ := List.forall_mem_cons.mp places
    obtain ⟨there, beyond⟩ := List.forall_mem_cons.mp others
    have place : file.location = other.location := by
      rw [own, here, Except.ok.injEq] at there
      exact there
    have equal : file = other := by
      cases file
      cases other
      simp_all
    rw [equal, ih later.symm contents.2 behind beyond]

/-- **Writing the same artifacts again changes nothing.** They are written to the same paths, the
migration included, if nothing happened to them since, nor to other migrations. -/
theorem writeArtifacts_again (writes : project.dryRun = false) (wellFormed : tree.WellFormed)
    (begins : tree.node? project.start = some .directory)
    (climbs : tree.Climbs project.start project.root) (root : SearchRoot project.root)
    (plain : plan.Plain) {files : List OutputFile}
    (single : ∀ other ∈ files.tail, other.artifact ≠ .migration)
    (own : ∀ file ∈ files, file.path = file.artifact.path plan) {written : List FilePath}
    (done : project.writeArtifacts moment tree files = (changed, .ok written))
    {last : Tree} (whole : last.WellFormed) (kept : changed.Extends last)
    (same : ∀ parent name, Artifact.migrationEnding plan <:+ name →
      (last.node? (parent ++ [name]) ≠ none ↔ changed.node? (parent ++ [name]) ≠ none))
    (still : ∀ path ∈ written, ∀ location,
      changed.locate project.start (project.pathOf path) = .ok location →
      last.node? location = changed.node? location) (again : Moment) :
    ∃ next, project.writeArtifacts again last files = (next, .ok written) ∧
      ∀ place, next.node? place = last.node? place := by
  obtain ⟨-, keptFirst, all, paths, contents, places, filled, -⟩ :=
    writeArtifacts_spec writes wellFormed begins done
  have holds : ∀ place content, Written.contentAt? all place = some content →
      last.node? place = some (.file (.text content)) := by
    intro place content found
    obtain ⟨file, member, rfl, -⟩ := Written.mem_of_contentAt? found
    rw [still file.path (by rw [paths]; exact List.mem_map_of_mem member) file.location
      (places file member).1, filled _ content found]
  have leads : ∀ file ∈ all, last.locate project.start (project.pathOf file.path) =
      .ok file.location ∧ last.node? file.location ≠ some .directory := by
    intro file member
    obtain ⟨content, found⟩ := Written.exists_contentAt? member
    exact ⟨kept.locate (places file member).1, by rw [holds _ content found]; simp⟩
  obtain ⟨next, wrote, elsewhere⟩ := writeArtifacts_same_paths writes wellFormed begins climbs root
    plain single own done whole kept same paths leads again
  obtain ⟨-, keptLast, others, pathsAgain, contentsAgain, placesAgain, filledAgain, -⟩ :=
    writeArtifacts_spec writes whole (kept _ (keptFirst _ begins)) wrote
  obtain rfl : all = others := written_eq_of_places (paths.symm.trans pathsAgain)
    (contents.symm.trans contentsAgain) (fun file member => keptLast.locate (leads file member).1)
    fun file member => (placesAgain file member).1
  refine ⟨next, wrote, fun place => ?_⟩
  cases found : Written.contentAt? all place with
  | none => exact elsewhere place (Written.contentAt?_eq_none.mp found)
  | some content => rw [filledAgain place content found, holds place content found]

end Project

end Scaffold
