import Scaffold.Proofs.Project.Writing
import Scaffold.Proofs.Registry.Saving

/-!
# Splicing shared files

What adding entries does to a tree: a file that is missing is reported, and one that is there gets
the text that the insertions make of its own, with nothing left of the copy beside it
(`addEntries_spec`). Everything else stays.
-/
namespace Scaffold

/-- The place of the copy of a file. -/
def copyLocation (location : Location) : Location :=
  location.dropLast ++ [location.getLast?.getD [] ++ ".bak"]

/-- The copy of a named file lies beside it. -/
theorem copyLocation_concat (parent : Location) (name : Text) :
    copyLocation (parent ++ [name]) = parent ++ [name ++ ".bak"] := by
  simp [copyLocation]

/-- The name of a copy is the name of an entry. -/
theorem IsName.copy {name : Text} (isName : IsName name) : IsName (name ++ ".bak") := by
  have ending : (".bak" : Text) = ['.', 'b', 'a', 'k'] := by decide
  obtain ⟨c, rest, rfl⟩ := List.exists_cons_of_ne_nil isName.ne_nil
  rw [ending]
  refine ⟨?_, ?_, ?_⟩
  · simp [isIdle]
  · intro same
    have length := congrArg List.length same
    simp only [List.length_append, List.length_cons, List.length_nil] at length
    omega
  · intro inside
    rcases List.mem_append.mp inside with own | more
    · exact isName.single own
    · simp at more

namespace Tree

variable {tree other : Tree} {start location : Location} {path : FilePath}

/-- A file has another text now, its copy is gone, and nothing else changed. -/
structure Replaces (tree other : Tree) (location : Location) (content : Text) : Prop where
  /-- There was a file. -/
  file : ∃ old, tree.node? location = some (.file old)
  /-- Its text is another one. -/
  there : other.node? location = some (.file (.text content))
  /-- The copy took the place of no directory. -/
  free : tree.node? (copyLocation location) ≠ some .directory
  /-- The copy is gone. -/
  gone : other.node? (copyLocation location) = none
  /-- Nothing else changed. -/
  elsewhere : ∀ place, place ≠ location → place ≠ copyLocation location →
    other.node? place = tree.node? place

/-- Replacing a file changes no directory. -/
theorem Replaces.directory_iff {content : Text} (replaces : tree.Replaces other location content)
    (place : Location) :
    other.node? place = some .directory ↔ tree.node? place = some .directory := by
  by_cases here : place = location
  · obtain ⟨old, file⟩ := replaces.file
    rw [here, replaces.there, file]
    simp
  · by_cases copy : place = copyLocation location
    · rw [copy, replaces.gone]
      simp [replaces.free]
    · rw [replaces.elsewhere place here copy]

/-- The path of a copy leads to the place beside the file. -/
theorem WellFormed.locate_backupPath (wellFormed : tree.WellFormed)
    (reached : tree.locate start path = .ok location) {content : FileContent}
    (file : tree.node? location = some (.file content)) :
    tree.locate start (Project.backupPath path) = .ok (copyLocation location) := by
  obtain ⟨front, name, parent, split, isName, walked, directory, rfl⟩ :=
    wellFormed.locate_end reached (by rw [file]; simp)
  have names := Project.namesOf_backupPath split isName
  have longer := Project.backupPath_eq split isName
  have filled : path ≠ [] := by
    rintro rfl
    simp [locate] at reached
  obtain ⟨c, rest, rfl⟩ := List.exists_cons_of_ne_nil filled
  have origins : origin start (Project.backupPath (c :: rest)) = origin start (c :: rest) := by
    rw [longer]
    simp [origin, FilePath.isAbsolute]
  rw [locate_eq (by rw [longer]; simp), names, origins, copyLocation_concat,
    ← isName.copy.step_eq parent]
  exact walk_concat_ok.mpr ⟨parent, walked, directory, rfl⟩

/-- A file is not its own copy. -/
theorem copyLocation_ne {content : FileContent}
    (file : tree.node? location = some (.file content)) : copyLocation location ≠ location := by
  rcases List.eq_nil_or_concat location with rfl | ⟨parent, name, rfl⟩
  · simp [node?_nil] at file
  · rw [List.concat_eq_append, copyLocation_concat]
    intro same
    have ending : (".bak" : Text) = ['.', 'b', 'a', 'k'] := by decide
    rw [ending] at same
    simp at same

/-- A file does not lie at the root. -/
theorem ne_nil_of_file {content : FileContent} (file : tree.node? location = some (.file content)) :
    location ≠ [] := by
  rintro rfl
  simp [node?_nil] at file

end Tree

namespace Project

open Scaffold.Tree

variable {project : Project} {tree changed : Tree} {location : Location}

/-- What replacing the content of a file does. -/
theorem replace_spec {path : FilePath} {content : Text} {old : FileContent}
    (wellFormed : tree.WellFormed) (reached : tree.locate project.start path = .ok location)
    (file : tree.node? location = some (.file old))
    (done : project.replace tree path content = (changed, .ok ())) :
    changed.WellFormed ∧ tree.Replaces changed location content := by
  have apart := copyLocation_ne file
  obtain ⟨front, name, parent, split, isName, walked, directory, rfl⟩ :=
    wellFormed.locate_end reached (by rw [file]; simp)
  have aside := wellFormed.locate_backupPath reached file
  have read : tree.read project.start path = .ok old := read_ok.mpr ⟨_, reached, file⟩
  unfold replace at done
  simp only at done
  -- The copy, the new content and the removal of the copy, one after the other.
  cases copied : tree.copy project.start path (backupPath path) with
  | error fault => simp [copied] at done
  | ok first =>
    simp only [copied] at done
    have wrote : tree.write project.start (backupPath path) old = .ok first := by
      simpa [copy, read, bind, Except.bind] using copied
    obtain ⟨place, again, free, rfl⟩ := write_ok.mp wrote
    obtain rfl : copyLocation (parent ++ [name]) = place := by
      rw [aside, Except.ok.injEq] at again
      exact again
    have kept := extends_put free (.file old)
    cases written : (tree.put (copyLocation (parent ++ [name])) (.file old)).write project.start
        path (.text content) with
    | error fault => simp [written] at done
    | ok second =>
      simp only [written] at done
      obtain ⟨place, again, -, rfl⟩ := write_ok.mp written
      obtain rfl : parent ++ [name] = place := by
        rw [kept.locate reached, Except.ok.injEq] at again
        exact again
      cases removed : ((tree.put (copyLocation (parent ++ [name])) (.file old)).put
          (parent ++ [name]) (.file (.text content))).remove project.start (backupPath path) with
      | error fault => simp [removed] at done
      | ok third =>
        simp only [removed, Prod.mk.injEq, and_true] at done
        subst done
        obtain ⟨place, last, again, there, rfl⟩ := remove_ok.mp removed
        have noDirectory : (tree.put (copyLocation (parent ++ [name])) (.file old)).node?
            (parent ++ [name]) ≠ some .directory := by
          rw [node?_put, if_neg (by simp), if_neg apart.symm, file]
          simp
        have keptLast := kept.trans (extends_put noDirectory (.file (.text content)))
        obtain rfl : copyLocation (parent ++ [name]) = place := by
          rw [keptLast.locate aside, Except.ok.injEq] at again
          exact again
        have wholeFirst : (tree.put (copyLocation (parent ++ [name])) (.file old)).WellFormed := by
          rw [copyLocation_concat] at free ⊢
          exact wellFormed.put isName.copy directory (.inr free)
        have wholeSecond : ((tree.put (copyLocation (parent ++ [name])) (.file old)).put
            (parent ++ [name]) (.file (.text content))).WellFormed :=
          wholeFirst.put isName (kept _ directory) (.inr noDirectory)
        refine ⟨wholeSecond.erase (by rw [there]; simp), ⟨old, file⟩, ?_, free, ?_, ?_⟩
        · rw [node?_erase, if_neg (by simp), if_neg apart.symm, node?_put, if_neg (by simp),
            if_pos rfl]
        · rw [node?_erase, if_pos rfl, if_neg (by simp [copyLocation])]
        · intro place here copy
          rw [node?_erase, node?_put, node?_put, if_neg copy, if_neg copy, if_neg here]
          split
          · rename_i root
            rw [root, node?_nil]
          · rfl

/-- Replacing a file goes well unless a directory lies where its copy would. -/
theorem exists_replace {path : FilePath} {content : Text} {old : FileContent}
    (wellFormed : tree.WellFormed) (reached : tree.locate project.start path = .ok location)
    (file : tree.node? location = some (.file old))
    (free : tree.node? (copyLocation location) ≠ some .directory) :
    ∃ changed, project.replace tree path content = (changed, .ok ()) := by
  have apart := copyLocation_ne file
  have filled := ne_nil_of_file file
  have aside := wellFormed.locate_backupPath reached file
  have read : tree.read project.start path = .ok old := read_ok.mpr ⟨_, reached, file⟩
  have copied : tree.copy project.start path (backupPath path) =
      .ok (tree.put (copyLocation location) (.file old)) := by
    have wrote : tree.write project.start (backupPath path) old = .ok _ :=
      write_ok.mpr ⟨_, aside, free, rfl⟩
    simpa [copy, read, bind, Except.bind] using wrote
  have kept := extends_put free (.file old)
  have noDirectory : (tree.put (copyLocation location) (.file old)).node? location ≠
      some .directory := by
    rw [node?_put, if_neg filled, if_neg apart.symm, file]
    simp
  have written : (tree.put (copyLocation location) (.file old)).write project.start path
      (.text content) = .ok _ := write_ok.mpr ⟨_, kept.locate reached, noDirectory, rfl⟩
  have keptLast := kept.trans (extends_put noDirectory (.file (.text content)))
  have there : ((tree.put (copyLocation location) (.file old)).put location
      (.file (.text content))).node? (copyLocation location) = some (.file old) := by
    have some : copyLocation location ≠ [] := by simp [copyLocation]
    rw [node?_put, if_neg some, if_neg apart, node?_put, if_neg some, if_pos rfl]
  have removed := remove_ok.mpr ⟨_, old, keptLast.locate aside, there, rfl⟩
  refine ⟨((tree.put (copyLocation location) (.file old)).put location
    (.file (.text content))).erase (copyLocation location), ?_⟩
  simp only [replace, copied, written, removed]

/-- **What adding entries to a file does.** -/
theorem addEntries_spec (writes : project.dryRun = false) (wellFormed : tree.WellFormed)
    {file : FilePath} {registrations : List Registration} {reports : List EntryReport}
    (done : project.addEntries tree file registrations = (changed, .ok reports)) :
    changed.WellFormed ∧
    ((tree.isFile project.start (project.pathOf file) = false ∧ changed = tree ∧
      reports = registrations.map fun registration =>
        ⟨file, registration.entry.key, .fileNotFound⟩) ∨
    ∃ location before updated,
      tree.locate project.start (project.pathOf file) = .ok location ∧
      tree.node? location = some (.file (.text before)) ∧
      insertAll file (SharedFile.ofText before) registrations = .ok (updated, reports) ∧
      (updated.toText = before ∧ changed = tree ∨
        updated.toText ≠ before ∧ tree.Replaces changed location updated.toText)) := by
  unfold addEntries at done
  simp only at done
  split at done
  · rename_i missing
    simp only [Prod.mk.injEq, Except.ok.injEq] at done
    obtain ⟨rfl, rfl⟩ := done
    exact ⟨wellFormed, .inl ⟨by simpa using missing, rfl, rfl⟩⟩
  · split at done
    · simp at done
    · rename_i before found
      obtain ⟨location, reached, file⟩ := readText_ok.mp found
      split at done
      · simp at done
      · rename_i updated later inserted
        by_cases same : updated.toText = before
        · rw [if_pos (by simp [same])] at done
          simp only [Prod.mk.injEq, Except.ok.injEq] at done
          obtain ⟨rfl, rfl⟩ := done
          exact ⟨wellFormed, .inr ⟨location, before, updated, reached, file, inserted,
            .inl ⟨same, rfl⟩⟩⟩
        · rw [if_neg (by simp [same, writes])] at done
          split at done
          · simp at done
          · rename_i last replaced
            simp only [Prod.mk.injEq, Except.ok.injEq] at done
            obtain ⟨rfl, rfl⟩ := done
            obtain ⟨whole, replaces⟩ := replace_spec wellFormed reached file replaced
            exact ⟨whole, .inr ⟨location, before, updated, reached, file, inserted,
              .inr ⟨same, replaces⟩⟩⟩

/-- Adding entries to a file changes no directory. -/
theorem directory_iff_addEntries (writes : project.dryRun = false)
    (wellFormed : tree.WellFormed) {file : FilePath} {registrations : List Registration}
    {reports : List EntryReport}
    (done : project.addEntries tree file registrations = (changed, .ok reports))
    (place : Location) :
    changed.node? place = some .directory ↔ tree.node? place = some .directory := by
  obtain ⟨-, ⟨-, rfl, -⟩ | ⟨location, before, updated, -, -, -, ⟨-, rfl⟩ | ⟨-, replaces⟩⟩⟩ :=
    addEntries_spec writes wellFormed done
  · exact Iff.rfl
  · exact Iff.rfl
  · exact replaces.directory_iff place

/-- Without files nothing is done and nothing reported. -/
theorem addAllEntries_nil_ok {registrations : List Registration} {reports : List EntryReport} :
    project.addAllEntries registrations tree [] = (changed, .ok reports) ↔
      tree = changed ∧ [] = reports := by
  show (tree, Except.ok []) = (changed, Except.ok reports) ↔ _
  rw [Prod.mk.injEq, Except.ok.injEq]

/-- A first file and the others. -/
theorem addAllEntries_cons_ok {registrations : List Registration} {file : FilePath}
    {rest : List FilePath} {reports : List EntryReport} :
    project.addAllEntries registrations tree (file :: rest) = (changed, .ok reports) ↔
      ∃ middle first later,
        project.addEntries tree file
          (registrations.filter fun registration => FilePath.same registration.file file) =
          (middle, .ok first) ∧
        project.addAllEntries registrations middle rest = (changed, .ok later) ∧
        reports = first ++ later := by
  rw [addAllEntries]
  rcases added : project.addEntries tree file
    (registrations.filter fun registration => FilePath.same registration.file file)
    with ⟨middle, failure | first⟩
  · simp
  · rcases others : project.addAllEntries registrations middle rest
      with ⟨last, failure | later⟩
    · simp only [others, Prod.mk.injEq, reduceCtorEq, and_false, false_iff, not_exists]
      rintro _ _ more ⟨⟨rfl, -⟩, again, -⟩
      rw [others] at again
      exact absurd (Prod.mk.inj again).2 (by simp)
    · simp only [others, Prod.mk.injEq, Except.ok.injEq]
      constructor
      · rintro ⟨rfl, rfl⟩
        exact ⟨middle, first, later, ⟨rfl, rfl⟩, others, rfl⟩
      · rintro ⟨_, _, more, ⟨rfl, rfl⟩, again, rfl⟩
        rw [others] at again
        obtain ⟨rfl, same⟩ := Prod.mk.inj again
        rw [Except.ok.injEq] at same
        exact ⟨rfl, by rw [same]⟩

/-- Files of which no two have the same path. -/
theorem mem_distinctFiles {files : List FilePath} {file : FilePath}
    (member : file ∈ distinctFiles files) : file ∈ files := by
  induction files with
  | nil => exact member
  | cons first rest ih =>
    rw [distinctFiles, List.mem_cons] at member
    rcases member with rfl | later
    · exact List.mem_cons_self
    · exact List.mem_cons_of_mem first (ih (List.mem_filter.mp later).1)

/-- Of several paths to one file one is left. -/
theorem pairwise_distinctFiles (files : List FilePath) :
    (distinctFiles files).Pairwise fun file other => FilePath.same file other = false := by
  induction files with
  | nil => exact .nil
  | cons first rest ih =>
    rw [distinctFiles, List.pairwise_cons]
    refine ⟨fun other member => ?_, ih.filter _⟩
    simpa using (List.mem_filter.mp member).2

/-- Every path is the same as one that is left. -/
theorem exists_distinctFiles {files : List FilePath} {file : FilePath} (member : file ∈ files) :
    ∃ other ∈ distinctFiles files, FilePath.same file other = true := by
  induction files with
  | nil => simp at member
  | cons first rest ih =>
    by_cases here : FilePath.same file first = true
    · exact ⟨first, by rw [distinctFiles]; exact List.mem_cons_self, here⟩
    · have later : file ∈ rest := by
        rcases List.mem_cons.mp member with rfl | later
        · simp [FilePath.same] at here
        · exact later
      obtain ⟨other, kept, same⟩ := ih later
      refine ⟨other, ?_, same⟩
      rw [distinctFiles, List.mem_cons, List.mem_filter]
      refine .inr ⟨kept, ?_⟩
      simp only [FilePath.same, beq_iff_eq, Bool.not_eq_eq_eq_not, Bool.not_true,
        beq_eq_false_iff_ne, ne_eq] at here same ⊢
      rw [← same]
      exact Ne.symm here

/-- The first of two paths to one file is the one that is left. -/
example : distinctFiles ["routes/web.php", "config/menu.ts", "routes/./web.php"] =
    [("routes/web.php".toList : FilePath), "config/menu.ts".toList] := by
  decide +kernel

end Project

end Scaffold
