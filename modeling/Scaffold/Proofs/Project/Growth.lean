import Scaffold.Proofs.Project.Target

/-!
# Where a tree grows

What is new after artifacts were written lies on the way to one of them (`writeArtifacts_new`), if
every step up in the root of the project starts from a directory that was there before
(`Tree.Climbs`). So what a path below the root leads to afterwards was found there before, or is new
(`locate_of_directory`).
-/
namespace Scaffold

open FilePath

namespace Tree

variable {tree other : Tree} {start location last : Location} {names : List Text}

/-- Making directories goes on where a walk to a directory ends. -/
theorem makeAlong_append {more : List Text} {made : Bool}
    (reached : tree.walk location names = .ok last)
    (directory : tree.node? last = some .directory) :
    tree.makeAlong location made (activeNames names ++ more) = tree.makeAlong last made more := by
  induction names generalizing location with
  | nil =>
    obtain rfl : location = last := by simpa [walk] using reached
    rfl
  | cons name rest ih =>
    obtain ⟨-, behind⟩ := walk_cons_ok.mp reached
    by_cases idle : isIdle name = true
    · rw [step_of_isIdle idle] at behind
      have later := ih behind
      simpa [activeNames, idle] using later
    · have here : tree.node? (step location name) = some .directory := by
        cases rest with
        | nil =>
          obtain rfl : step location name = last := by simpa [walk] using behind
          exact directory
        | cons next more => exact (walk_cons_ok.mp behind).1
      have split : activeNames (name :: rest) = name :: activeNames rest := by
        simp [activeNames, idle]
      rw [split, List.cons_append, makeAlong]
      simp only [here]
      exact ih behind

/-- Nothing is made where a walk to a directory ends. -/
theorem makeAlong_of_walk {made : Bool} (reached : tree.walk location names = .ok last)
    (directory : tree.node? last = some .directory) :
    tree.makeAlong location made (activeNames names) = (tree, none) := by
  have whole := @makeAlong_append tree location last names [] made reached directory
  rwa [List.append_nil] at whole

/-- The directories that are made on a way that never goes up lie on that way. -/
theorem makeAlong_new {made : Bool} (active : ∀ name ∈ names, IsName name)
    (done : tree.makeAlong location made names = (other, none)) {place : Location}
    (missing : tree.node? place = none) (there : other.node? place ≠ none) :
    place <+: location ++ names := by
  induction names generalizing tree location made with
  | nil =>
    obtain rfl : tree = other := by simpa [makeAlong] using done
    exact absurd missing there
  | cons name rest ih =>
    have later := fun other member => active other (List.mem_cons_of_mem name member)
    have split : location ++ name :: rest = location ++ [name] ++ rest := by simp
    rw [makeAlong, (active name List.mem_cons_self).step_eq] at done
    rw [split]
    cases node : tree.node? (location ++ [name]) with
    | some found =>
      cases found with
      | directory =>
        simp only [node] at done
        exact ih later done missing
      | file content => simp [node] at done
    | none =>
      simp only [node] at done
      by_cases same : place = location ++ [name]
      · rw [same]
        exact List.prefix_append _ _
      · refine ih later done ?_
        rw [node?_put, if_neg same, missing, if_neg]
        rintro rfl
        simp [node?_nil] at missing

/-- A way to a directory that never goes up leads there. -/
theorem WellFormed.walk_of_directory (wellFormed : tree.WellFormed)
    (begins : tree.node? location = some .directory) (lower : ['.', '.'] ∉ names)
    (directory : tree.node? (location ++ activeNames names) = some .directory) :
    tree.walk location names = .ok (location ++ activeNames names) := by
  induction names generalizing location with
  | nil => simp [walk, activeNames]
  | cons name rest ih =>
    have later : ['.', '.'] ∉ rest := fun inside => lower (List.mem_cons_of_mem name inside)
    by_cases idle : isIdle name = true
    · have same : activeNames (name :: rest) = activeNames rest := by simp [activeNames, idle]
      rw [same] at directory ⊢
      rw [walk_cons_ok, step_of_isIdle idle]
      exact ⟨begins, ih begins later directory⟩
    · have split : location ++ activeNames (name :: rest) =
          location ++ [name] ++ activeNames rest := by
        simp [activeNames, idle]
      have parts : name ≠ [] ∧ name ≠ ['.'] := by simpa [isIdle] using idle
      have below : name ≠ ['.', '.'] := fun same => lower (by simp [same])
      have next : step location name = location ++ [name] := by simp [step, parts, below]
      rw [split] at directory ⊢
      rw [walk_cons_ok, next]
      refine ⟨begins, ih ?_ later directory⟩
      by_cases none : activeNames rest = []
      · rwa [none, List.append_nil] at directory
      · exact wellFormed.directory_of_below none (by rw [directory]; simp)

/-- Every step up in a path starts from a directory that is there. -/
def Climbs (tree : Tree) (start : Location) (path : FilePath) : Prop :=
  ∀ before after, namesOf path = before ++ ['.', '.'] :: after → ∃ place,
    tree.walk (origin start path) before = .ok place ∧ tree.node? place = some .directory

/-- The steps up in a path can be tried out one after the other. -/
theorem climbs_iff {path : FilePath} : tree.Climbs start path ↔
    ∀ count < (namesOf path).length, (namesOf path)[count]? = some ['.', '.'] →
      (tree.walk (origin start path) ((namesOf path).take count)).toOption.any
        tree.isDirectoryAt = true := by
  have arrives : ∀ before, ((tree.walk (origin start path) before).toOption.any
      tree.isDirectoryAt = true ↔ ∃ place, tree.walk (origin start path) before = .ok place ∧
        tree.node? place = some .directory) := by
    intro before
    cases tree.walk (origin start path) before with
    | error fault => simp [Except.toOption]
    | ok place => simp [Except.toOption, isDirectoryAt]
  constructor
  · intro climbs count _ found
    rw [arrives]
    refine climbs _ ((namesOf path).drop (count + 1)) ?_
    obtain ⟨inside, up⟩ := List.getElem?_eq_some_iff.mp found
    rw [← up, List.getElem_cons_drop, List.take_append_drop]
  · intro all before after split
    rw [← arrives]
    have short : before.length < (namesOf path).length := by
      rw [split]
      simp
    have whole := all before.length short (by rw [split]; simp)
    rwa [split, List.take_left' rfl] at whole

instance (tree : Tree) (start : Location) (path : FilePath) : Decidable (tree.Climbs start path) :=
  decidable_of_iff _ climbs_iff.symm

/-- The steps up in a path start from directories where all directories are kept. -/
theorem Climbs.mono {path : FilePath} (climbs : tree.Climbs start path)
    (kept : tree.Extends other) : other.Climbs start path := by
  intro before after split
  obtain ⟨place, reached, directory⟩ := climbs before after split
  exact ⟨place, walk_mono kept reached, kept place directory⟩

/-- The steps up in the path of a directory that is there start from directories. -/
theorem climbs_of_isDirectory {path : FilePath} (there : tree.isDirectory start path = true) :
    tree.Climbs start path := by
  obtain ⟨location, reached, -⟩ := isDirectory_iff.mp there
  have filled : path ≠ [] := by
    rintro rfl
    simp [locate] at reached
  intro before after split
  rw [locate_eq filled, split] at reached
  obtain ⟨place, walked, up⟩ := walk_append_ok.mp reached
  exact ⟨place, walked, (walk_cons_ok.mp up).1⟩

/-- The names in front of a path below a directory are names of the directory. -/
theorem leadNames_prefix (path : FilePath) : leadNames path <+: namesOf path := by
  unfold leadNames
  split
  · exact List.nil_prefix
  · split
    · rename_i slash
      obtain ⟨front, rfl⟩ := List.getLast?_eq_some_iff.mp slash
      have split : namesOf (front ++ ['/']) = namesOf front ++ [[]] :=
        Text.splitOn_append_cons '/' front []
      rw [split, List.dropLast_concat]
      exact List.prefix_append _ _
    · exact List.prefix_rfl

/-- A root leads to a directory that is there, and from it down. -/
theorem Climbs.base {root : FilePath} (climbs : tree.Climbs start root)
    (wellFormed : tree.WellFormed) (begins : tree.node? start = some .directory) :
    ∃ upper lower base, leadNames root = upper ++ lower ∧ ['.', '.'] ∉ lower ∧
      tree.walk (origin start root) upper = .ok base ∧ tree.node? base = some .directory := by
  have origin : tree.node? (origin start root) = some .directory := by
    unfold Tree.origin
    split
    · exact node?_nil tree
    · exact begins
  by_cases up : ['.', '.'] ∈ leadNames root
  · obtain ⟨before, after, split, last⟩ : ∃ before after : List Text,
        leadNames root = before ++ ['.', '.'] :: after ∧ ['.', '.'] ∉ after := by
      obtain ⟨after, before, split, last⟩ := List.eq_append_cons_of_mem (List.mem_reverse.mpr up)
      refine ⟨before.reverse, after.reverse, ?_, fun inside => last (List.mem_reverse.mp inside)⟩
      rw [List.reverse_eq_iff.mp split]
      simp
    obtain ⟨more, whole⟩ := leadNames_prefix root
    rw [split, List.append_assoc, List.cons_append] at whole
    obtain ⟨place, reached, directory⟩ := climbs before _ whole.symm
    refine ⟨before ++ [['.', '.']], after, place.dropLast, by simp [split], last, ?_,
      wellFormed.directory_dropLast directory⟩
    exact walk_concat_ok.mpr ⟨place, reached, directory, by simp [step]⟩
  · exact ⟨[], leadNames root, _, rfl, up, rfl, origin⟩

/-- Making the directory of a path that ends with a name. -/
theorem makeDirectories_parent? {path : FilePath} {front : List Text} {name : Text}
    (split : namesOf path = front ++ [name]) (isName : IsName name) :
    tree.makeDirectories start ((parent? path).getD []) =
      tree.makeAlong (origin start path) false (activeNames front) := by
  have kept : ((Text.splitOn '/' ((parent? path).getD [])).filter fun name =>
      name != [] && name != ['.']) = activeNames (namesOf ((parent? path).getD [])) := by
    refine List.filter_congr fun name _ => ?_
    simp [isIdle, bne]
  rw [makeDirectories, origin, isAbsolute_parent? split isName, kept,
    activeNames_parent? split isName]
  rfl

end Tree

namespace Project

open Scaffold.Tree

variable {project : Project} {tree changed : Tree} {moment : Moment} {plan : Plan}

/-- What is new after an artifact was written lies on the way to it. -/
theorem writeArtifact_new (writes : project.dryRun = false) (wellFormed : tree.WellFormed)
    (begins : tree.node? project.start = some .directory)
    (climbs : tree.Climbs project.start project.root) {file : FilePath} (straight : Straight file)
    {content : Text}
    (done : project.writeArtifact tree file content = (changed, .ok ())) {place : Location}
    (missing : tree.node? place = none) (there : changed.node? place ≠ none) :
    ∃ location, changed.locate project.start (project.pathOf file) = .ok location ∧
      place <+: location := by
  obtain ⟨middle, location, made, reached, free, rfl⟩ := (writeArtifact_ok writes).mp done
  obtain ⟨whole, grows⟩ := makeDirectories_spec wellFormed begins made
  obtain ⟨front, name, parent, split, isName, walked, directory, rfl⟩ :=
    whole.locate_end reached free
  have kept := extends_put free (.file (.text content))
  refine ⟨parent ++ [name], kept.locate reached, ?_⟩
  by_cases same : place = parent ++ [name]
  · exact same ▸ List.prefix_rfl
  have new : middle.node? place ≠ none := by
    rw [node?_put, if_neg same] at there
    split at there
    · rename_i root
      rw [root, node?_nil]
      simp
    · exact there
  -- Above the last step up of the root, all directories were there.
  obtain ⟨upper, lower, base, root, down, above, there⟩ := climbs.base wellFormed begins
  obtain ⟨folder, last, names⟩ : ∃ folder last, namesOf file = folder ++ [last] := by
    rcases List.eq_nil_or_concat (namesOf file) with none | ⟨folder, last, names⟩
    · exact absurd none (namesOf_ne_nil file)
    · exact ⟨folder, last, by rw [names, List.concat_eq_append]⟩
  have below : ['.', '.'] ∉ lower ++ folder := by
    intro inside
    rcases List.mem_append.mp inside with early | late
    · exact down early
    · exact straight.lower (by rw [names]; exact List.mem_append_left _ late)
  obtain ⟨rfl, rfl⟩ : front = upper ++ (lower ++ folder) ∧ name = last := by
    have both := @namesOf_pathOf project _ _ _ straight names
    rw [split, root] at both
    have parts := List.append_inj' both rfl
    exact ⟨by rw [parts.1, List.append_assoc], List.singleton_inj.mp parts.2⟩
  have origin : Tree.origin project.start (project.pathOf file) =
      Tree.origin project.start project.root := origin_join straight.relative _
  rw [makeDirectories_parent? split isName, origin, activeNames_append,
    makeAlong_append above there] at made
  rw [origin] at walked
  obtain ⟨middleBase, first, second⟩ := walk_append_ok.mp walked
  obtain rfl : base = middleBase := by
    have again := walk_mono grows.extends above
    rw [again, Except.ok.injEq] at first
    exact first
  rw [walk_below below second]
  have along := makeAlong_new (fun name member => ?_) made missing new
  · exact along.trans (List.prefix_append _ _)
  · obtain ⟨listed, active⟩ := List.mem_filter.mp member
    have single : '/' ∉ name := by
      have inside : name ∈ namesOf (project.pathOf file) := by
        rw [split]
        exact List.mem_append_left _ (List.mem_append_right _ listed)
      exact Text.notMem_of_mem_splitOn inside
    exact ⟨by simpa using active, fun same => below (same ▸ listed), single⟩

/-- **What is new lies on the way to an artifact.** -/
theorem writeArtifacts_new (writes : project.dryRun = false) (wellFormed : tree.WellFormed)
    (begins : tree.node? project.start = some .directory)
    (climbs : tree.Climbs project.start project.root) (plain : plan.Plain)
    {files : List OutputFile} (own : ∀ file ∈ files, file.path = file.artifact.path plan)
    {written : List FilePath}
    (done : project.writeArtifacts moment tree files = (changed, .ok written)) {place : Location}
    (missing : tree.node? place = none) (there : changed.node? place ≠ none) :
    ∃ path ∈ written, ∃ location,
      changed.locate project.start (project.pathOf path) = .ok location ∧ place <+: location := by
  induction files generalizing tree written with
  | nil =>
    obtain ⟨rfl, -⟩ : tree = changed ∧ [] = written := by simpa [writeArtifacts] using done
    exact absurd missing there
  | cons file rest ih =>
    obtain ⟨path, middle, later, aimed, wrote, others, rfl⟩ := writeArtifacts_cons_ok.mp done
    obtain ⟨whole, kept, -⟩ := writeArtifact_spec writes wellFormed begins wrote
    obtain ⟨-, keptLast, -⟩ := writeArtifacts_spec writes whole (kept _ begins) others
    by_cases none : middle.node? place = none
    · obtain ⟨own, member, found⟩ := ih whole (kept _ begins) (climbs.mono kept)
        (fun other member => own other (List.mem_cons_of_mem file member)) others none
      exact ⟨own, List.mem_cons_of_mem path member, found⟩
    · have straight := (target_place plain (own file List.mem_cons_self) aimed).straight
      obtain ⟨location, reached, before⟩ :=
        writeArtifact_new writes wellFormed begins climbs straight wrote missing none
      exact ⟨path, List.mem_cons_self, location, keptLast.locate reached, before⟩

/-- A way below the root that leads to a directory later on led there before, if it was there. -/
theorem walk_of_kept (wellFormed : tree.WellFormed)
    (begins : tree.node? project.start = some .directory)
    (climbs : tree.Climbs project.start project.root) (kept : tree.Extends changed)
    {names : List Text} (lower : ['.', '.'] ∉ names) {location : Location}
    (reached : changed.walk (origin project.start project.root)
      (leadNames project.root ++ names) = .ok location)
    (there : tree.node? location = some .directory) :
    tree.walk (origin project.start project.root) (leadNames project.root ++ names) =
      .ok location := by
  obtain ⟨upper, deeper, base, root, down, above, baseThere⟩ := climbs.base wellFormed begins
  have deep : ['.', '.'] ∉ deeper ++ names := fun inside =>
    (List.mem_append.mp inside).elim down lower
  rw [root, List.append_assoc] at reached ⊢
  obtain ⟨middle, first, second⟩ := walk_append_ok.mp reached
  obtain rfl : base = middle := by
    have again := walk_mono kept above
    rw [again, Except.ok.injEq] at first
    exact first
  have same := walk_below deep second
  rw [same] at there ⊢
  exact walk_append_ok.mpr ⟨base, above, wellFormed.walk_of_directory baseThere deep there⟩

/-- A directory that a path below the root leads to later on was found by it before, if it was
there. -/
theorem locate_of_directory (wellFormed : tree.WellFormed)
    (begins : tree.node? project.start = some .directory)
    (climbs : tree.Climbs project.start project.root) (kept : tree.Extends changed)
    {directory : FilePath} (straight : Straight directory) (filled : directory ≠ [])
    {location : Location}
    (reached : changed.locate project.start (project.pathOf directory) = .ok location)
    (there : tree.node? location = some .directory) :
    tree.locate project.start (project.pathOf directory) = .ok location := by
  rw [pathOf, locate_eq (join_ne_nil filled), origin_join straight.relative,
    namesOf_join straight.relative] at reached ⊢
  exact walk_of_kept wellFormed begins climbs kept straight.lower reached there

/-- What a path below the root with a name at its end leads to later on was found by it before, if
it was there. -/
theorem locate_of_there (wellFormed : tree.WellFormed)
    (begins : tree.node? project.start = some .directory)
    (climbs : tree.Climbs project.start project.root) (kept : tree.Extends changed)
    {file : FilePath} (straight : Straight file) {front : List Text} {name : Text}
    (split : namesOf file = front ++ [name]) (isName : IsName name) {location : Location}
    (reached : changed.locate project.start (project.pathOf file) = .ok location)
    (there : tree.node? location ≠ none) :
    tree.locate project.start (project.pathOf file) = .ok location := by
  have filled : file ≠ [] := by
    rintro rfl
    have empty : ([] : List Text) ++ [[]] = front ++ [name] := split
    exact isName.ne_nil ((List.append_inj' empty rfl).2 |> List.singleton_inj.mp).symm
  have lower : ['.', '.'] ∉ front := fun inside =>
    straight.lower (by rw [split]; exact List.mem_append_left _ inside)
  rw [pathOf, locate_eq (join_ne_nil filled), origin_join straight.relative,
    namesOf_join straight.relative, split, ← List.append_assoc] at reached ⊢
  obtain ⟨parent, walked, -, rfl⟩ := walk_concat_ok.mp reached
  rw [isName.step_eq] at there ⊢
  have directory := (wellFormed parent name there).2
  exact walk_concat_ok.mpr
    ⟨parent, walk_of_kept wellFormed begins climbs kept lower walked directory, directory,
      (isName.step_eq parent).symm⟩

end Project

end Scaffold
