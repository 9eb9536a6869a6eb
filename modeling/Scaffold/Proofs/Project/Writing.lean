import Scaffold.Proofs.Project.Edit
import Scaffold.Project.Install

/-!
# Writing artifacts

What is at every place after artifacts were written: directories that were missing, and at the
place that the path of an artifact leads to the content that was written there last
(`writeArtifacts_spec`). Directories are never lost, so the paths lead there ever after.
-/
namespace Scaffold

namespace Tree

variable {tree other last : Tree} {start location : Location} {path : FilePath}

/-- All directories are still there. -/
def Extends (tree other : Tree) : Prop :=
  ∀ place, tree.node? place = some .directory → other.node? place = some .directory

/-- A tree has its own directories. -/
theorem Extends.refl (tree : Tree) : tree.Extends tree := fun _ there => there

/-- What is still there later on is still there. -/
theorem Extends.trans (first : tree.Extends other) (second : other.Extends last) :
    tree.Extends last := fun place there => second place (first place there)

/-- Where all directories are still there, paths lead where they led. -/
theorem Extends.locate (kept : tree.Extends other)
    (reached : tree.locate start path = .ok location) : other.locate start path = .ok location :=
  locate_mono kept reached

/-- A growing tree keeps its directories. -/
theorem GrowsTo.extends (grows : tree.GrowsTo other) : tree.Extends other :=
  fun _ there => grows.node?_eq there

/-- A file put where no directory is leaves the directories. -/
theorem extends_put (noDirectory : tree.node? location ≠ some .directory) (node : Node) :
    tree.Extends (tree.put location node) := by
  intro place there
  have other : place ≠ location := fun same => noDirectory (same ▸ there)
  rw [node?_put, if_neg other, there]
  split <;> rfl

/-- A path that does not lead to a directory ends with the name of an entry. -/
theorem WellFormed.locate_end (wellFormed : tree.WellFormed)
    (reached : tree.locate start path = .ok location)
    (noDirectory : tree.node? location ≠ some .directory) :
    ∃ front name parent, namesOf path = front ++ [name] ∧ IsName name ∧
      tree.walk (origin start path) front = .ok parent ∧ tree.node? parent = some .directory ∧
      location = parent ++ [name] := by
  have filled : path ≠ [] := by
    rintro rfl
    simp [locate] at reached
  rw [locate_eq filled] at reached
  rcases List.eq_nil_or_concat (namesOf path) with none | ⟨front, name, split⟩
  · exact absurd none (namesOf_ne_nil path)
  · rw [List.concat_eq_append] at split
    rw [split] at reached
    obtain ⟨parent, walked, directory, rfl⟩ := walk_concat_ok.mp reached
    have active : isIdle name = false := by
      rw [Bool.eq_false_iff]
      intro idle
      rw [step_of_isIdle idle] at noDirectory
      exact noDirectory directory
    have lower : name ≠ ['.', '.'] := by
      rintro rfl
      have up : step parent ['.', '.'] = parent.dropLast := by simp [step]
      rw [up] at noDirectory
      exact noDirectory (wellFormed.directory_dropLast directory)
    have single : '/' ∉ name :=
      Text.notMem_of_mem_splitOn (by rw [show Text.splitOn '/' path = _ from split]; simp)
    have isName : IsName name := ⟨active, lower, single⟩
    exact ⟨front, name, parent, split, isName, walked, directory, isName.step_eq parent⟩

/-- Making the directories of a path keeps a tree well formed and adds nothing but directories,
whether or not it goes well. -/
theorem makeDirectories_spec (wellFormed : tree.WellFormed)
    (begins : tree.node? start = some .directory) {fault : Option FileFault}
    (done : tree.makeDirectories start path = (other, fault)) :
    other.WellFormed ∧ tree.GrowsTo other := by
  have directory : tree.node? (origin start path) = some .directory := by
    unfold origin
    split
    · exact node?_nil tree
    · exact begins
  refine makeAlong_spec wellFormed directory (fun name member => ?_) done
  obtain ⟨piece, active⟩ := List.mem_filter.mp member
  refine ⟨?_, Text.notMem_of_mem_splitOn piece⟩
  simpa [isIdle] using active

/-- A file is written at a place: the path leads there, its text is there, and elsewhere nothing is
new but directories. -/
structure Puts (tree other : Tree) (location : Location) (content : Text) : Prop where
  /-- No directory was there. -/
  free : tree.node? location ≠ some .directory
  /-- The text is there. -/
  there : other.node? location = some (.file (.text content))
  /-- Elsewhere only directories may be new. -/
  elsewhere : ∀ place, place ≠ location → other.node? place = tree.node? place ∨
    tree.node? place = none ∧ other.node? place = some .directory

end Tree

/-- A file that was written. -/
structure Written where
  /-- Its path below the root of the project. -/
  path : FilePath
  /-- Where the path leads. -/
  location : Location
  /-- What was written. -/
  content : Text

namespace Written

/-- What was written last at a place. -/
def contentAt? : List Written → Location → Option Text
  | [], _ => none
  | file :: rest, place =>
    match contentAt? rest place with
    | some content => some content
    | none => if file.location = place then some file.content else none

/-- Something was written at a place exactly if it is the place of a written file. -/
theorem contentAt?_eq_none {written : List Written} {place : Location} :
    contentAt? written place = none ↔ ∀ file ∈ written, file.location ≠ place := by
  induction written with
  | nil => simp [contentAt?]
  | cons file rest ih =>
    rw [contentAt?]
    cases later : contentAt? rest place with
    | none =>
      have others := ih.mp later
      simp only [List.mem_cons, forall_eq_or_imp, ne_eq, ite_eq_right_iff, reduceCtorEq,
        imp_false]
      exact ⟨fun here => ⟨here, others⟩, fun all => all.1⟩
    | some content =>
      simp only [reduceCtorEq, List.mem_cons, forall_eq_or_imp, false_iff, not_and]
      intro _ all
      rw [ih.mpr all] at later
      exact absurd later (by simp)

/-- What was written last at a place is the content of a file there. -/
theorem mem_of_contentAt? {written : List Written} {place : Location} {content : Text}
    (found : contentAt? written place = some content) :
    ∃ file ∈ written, file.location = place ∧ file.content = content := by
  induction written with
  | nil => simp [contentAt?] at found
  | cons file rest ih =>
    rw [contentAt?] at found
    cases later : contentAt? rest place with
    | some other =>
      rw [later] at found
      obtain ⟨own, member, about⟩ := ih (by rw [later]; exact found)
      exact ⟨own, List.mem_cons_of_mem file member, about⟩
    | none =>
      rw [later] at found
      obtain ⟨here, same⟩ := Option.ite_none_right_eq_some.mp found
      exact ⟨file, List.mem_cons_self, here, Option.some.inj same⟩

/-- What was written last at a place is the last content of the files there. -/
theorem contentAt?_eq_getLast? (written : List Written) (place : Location) :
    contentAt? written place =
      ((written.filter fun file => file.location = place).map (·.content)).getLast? := by
  induction written with
  | nil => rfl
  | cons file rest ih =>
    rw [contentAt?, ih]
    by_cases here : file.location = place
    · rw [List.filter_cons_of_pos (by simpa using here), List.map_cons, List.getLast?_cons]
      cases ((rest.filter fun file => file.location = place).map (·.content)).getLast? with
      | none => simp [here]
      | some content => rfl
    · rw [List.filter_cons_of_neg (by simpa using here)]
      cases ((rest.filter fun file => file.location = place).map (·.content)).getLast? with
      | none => simp [here]
      | some content => rfl

end Written

namespace Project

open Scaffold.Tree

variable {project : Project} {tree changed : Tree} {moment : Moment}

/-- Writing an artifact makes its directory and then puts the file. -/
theorem writeArtifact_ok (writes : project.dryRun = false) {file : FilePath} {content : Text} :
    project.writeArtifact tree file content = (changed, .ok ()) ↔ ∃ middle location,
      tree.makeDirectories project.start ((FilePath.parent? (project.pathOf file)).getD []) =
        (middle, none) ∧
      middle.locate project.start (project.pathOf file) = .ok location ∧
      middle.node? location ≠ some .directory ∧
      changed = middle.put location (.file (.text content)) := by
  unfold writeArtifact
  rw [if_neg (by simp [writes])]
  simp only
  rcases made : tree.makeDirectories project.start
    ((FilePath.parent? (project.pathOf file)).getD []) with ⟨middle, fault | fault⟩
  · cases written : middle.write project.start (project.pathOf file) (.text content) with
    | error fault =>
      simp only [written, Prod.mk.injEq, reduceCtorEq, and_false, false_iff, not_exists]
      rintro other location ⟨⟨rfl, -⟩, reached, free, -⟩
      have wrote : middle.write project.start (project.pathOf file) (.text content) = .ok _ :=
        write_ok.mpr ⟨location, reached, free, rfl⟩
      rw [written] at wrote
      exact absurd wrote (by simp)
    | ok last =>
      obtain ⟨location, reached, free, rfl⟩ := write_ok.mp written
      simp only [written, Prod.mk.injEq, and_true]
      constructor
      · rintro rfl
        exact ⟨middle, location, rfl, reached, free, rfl⟩
      · rintro ⟨_, other, rfl, again, -, rfl⟩
        rw [reached, Except.ok.injEq] at again
        rw [again]
  · simp

/-- What writing an artifact does. -/
theorem writeArtifact_spec (writes : project.dryRun = false) (wellFormed : tree.WellFormed)
    (begins : tree.node? project.start = some .directory) {file : FilePath} {content : Text}
    (done : project.writeArtifact tree file content = (changed, .ok ())) :
    changed.WellFormed ∧ tree.Extends changed ∧ ∃ location,
      changed.locate project.start (project.pathOf file) = .ok location ∧
      tree.Puts changed location content := by
  obtain ⟨middle, location, made, reached, free, rfl⟩ := (writeArtifact_ok writes).mp done
  obtain ⟨whole, grows⟩ := makeDirectories_spec wellFormed begins made
  obtain ⟨front, name, parent, -, isName, -, directory, rfl⟩ := whole.locate_end reached free
  have kept := extends_put free (.file (.text content))
  refine ⟨whole.put isName directory (.inr free), grows.extends.trans kept, parent ++ [name],
    kept.locate reached, ?_, ?_, ?_⟩
  · intro there
    exact free (grows.node?_eq there)
  · simp [node?_put]
  · intro place other
    rw [node?_put, if_neg other]
    split
    · rename_i root
      rw [root]
      exact .inl rfl
    · exact grows place

/-- A first artifact and the others. -/
theorem writeArtifacts_cons_ok {file : OutputFile} {rest : List OutputFile}
    {written : List FilePath} :
    project.writeArtifacts moment tree (file :: rest) = (changed, .ok written) ↔
      ∃ path middle later, project.target tree moment file = .ok path ∧
        project.writeArtifact tree path file.content = (middle, .ok ()) ∧
        project.writeArtifacts moment middle rest = (changed, .ok later) ∧
        written = path :: later := by
  rw [writeArtifacts]
  cases aim : project.target tree moment file with
  | error failure => simp
  | ok path =>
    rcases wrote : project.writeArtifact tree path file.content with ⟨middle, failure | ⟨⟩⟩
    · simp [wrote]
    · rcases others : project.writeArtifacts moment middle rest with ⟨last, failure | later⟩
      · simp only [wrote, others, Prod.mk.injEq, reduceCtorEq, and_false, false_iff, not_exists]
        rintro _ _ more ⟨⟨⟩, again, further, -⟩
        rw [wrote] at again
        obtain ⟨rfl, -⟩ := Prod.mk.inj again
        rw [others] at further
        exact absurd (Prod.mk.inj further).2 (by simp)
      · simp only [wrote, others, Prod.mk.injEq, Except.ok.injEq]
        constructor
        · rintro ⟨rfl, rfl⟩
          exact ⟨path, middle, later, rfl, wrote, others, rfl⟩
        · rintro ⟨_, _, more, rfl, again, further, rfl⟩
          rw [wrote] at again
          obtain ⟨rfl, -⟩ := Prod.mk.inj again
          rw [others] at further
          obtain ⟨rfl, same⟩ := Prod.mk.inj further
          rw [Except.ok.injEq] at same
          exact ⟨rfl, by rw [same]⟩

/-- **What writing artifacts does.** At the place that a path leads to is what was written there
last, and elsewhere nothing is new but directories. -/
theorem writeArtifacts_spec (writes : project.dryRun = false) {files : List OutputFile}
    {written : List FilePath} (wellFormed : tree.WellFormed)
    (begins : tree.node? project.start = some .directory)
    (done : project.writeArtifacts moment tree files = (changed, .ok written)) :
    changed.WellFormed ∧ tree.Extends changed ∧ ∃ all : List Written,
      written = all.map (·.path) ∧ files.map (·.content) = all.map (·.content) ∧
      (∀ file ∈ all, changed.locate project.start (project.pathOf file.path) =
        .ok file.location ∧ tree.node? file.location ≠ some .directory) ∧
      (∀ place content, Written.contentAt? all place = some content →
        changed.node? place = some (.file (.text content))) ∧
      ∀ place, Written.contentAt? all place = none →
        changed.node? place = tree.node? place ∨
        tree.node? place = none ∧ changed.node? place = some .directory := by
  induction files generalizing tree written with
  | nil =>
    obtain ⟨rfl, rfl⟩ : tree = changed ∧ [] = written := by simpa [writeArtifacts] using done
    exact ⟨wellFormed, .refl tree, [], rfl, rfl, by simp, by simp [Written.contentAt?],
      fun place _ => .inl rfl⟩
  | cons file rest ih =>
    obtain ⟨path, middle, later, -, wrote, others, rfl⟩ := writeArtifacts_cons_ok.mp done
    obtain ⟨whole, kept, location, reached, puts⟩ :=
      writeArtifact_spec writes wellFormed begins wrote
    obtain ⟨wholeLast, keptLast, all, rfl, contents, places, filled, blank⟩ :=
      ih whole (kept _ begins) others
    refine ⟨wholeLast, kept.trans keptLast, ⟨path, location, file.content⟩ :: all, rfl,
      by rw [List.map_cons, List.map_cons, contents], ?_, ?_, ?_⟩
    · intro own member
      rcases List.mem_cons.mp member with rfl | member
      · exact ⟨keptLast.locate reached, puts.free⟩
      · exact ⟨(places own member).1, fun there => (places own member).2 (kept _ there)⟩
    · intro place content found
      rw [Written.contentAt?] at found
      cases further : Written.contentAt? all place with
      | some text =>
        rw [further, Option.some.injEq] at found
        rw [filled place text further, found]
      | none =>
        rw [further] at found
        simp only [Option.ite_none_right_eq_some, Option.some.injEq] at found
        obtain ⟨rfl, rfl⟩ := found
        rcases blank location further with same | ⟨none, -⟩
        · rw [same, puts.there]
        · rw [puts.there] at none
          exact absurd none (by simp)
    · intro place none
      rw [Written.contentAt?] at none
      cases further : Written.contentAt? all place with
      | some text => simp [further] at none
      | none =>
        rw [further] at none
        have other : place ≠ location := by
          rintro rfl
          simp at none
        rcases blank place further with same | ⟨missing, directory⟩
        · rw [same]
          exact puts.elsewhere place other
        · rcases puts.elsewhere place other with same | ⟨-, there⟩
          · exact .inr ⟨by rw [← same, missing], directory⟩
          · rw [missing] at there
            exact absurd there (by simp)

/-- What is there is still there after artifacts were written. -/
theorem ne_none_writeArtifacts (writes : project.dryRun = false) {files : List OutputFile}
    {written : List FilePath} (wellFormed : tree.WellFormed)
    (begins : tree.node? project.start = some .directory)
    (done : project.writeArtifacts moment tree files = (changed, .ok written)) {place : Location}
    (there : tree.node? place ≠ none) : changed.node? place ≠ none := by
  obtain ⟨-, -, all, -, -, -, filled, blank⟩ := writeArtifacts_spec writes wellFormed begins done
  cases found : Written.contentAt? all place with
  | some content =>
    rw [filled place content found]
    simp
  | none =>
    rcases blank place found with same | ⟨missing, -⟩
    · rwa [same]
    · exact absurd missing there

end Project

end Scaffold
