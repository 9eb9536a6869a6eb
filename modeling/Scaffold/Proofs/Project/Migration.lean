import Scaffold.Proofs.Project.Glob
import Scaffold.Proofs.Project.Growth

/-!
# The migration of a module

The migration keeps the name that it was written under: what an installation adds to the directory
of migrations is no other file that the search finds (`mem_endingIn_written`), so that the next
search finds the file of the last one first (`target_again`).
-/
namespace Scaffold

open FilePath

namespace Glob

/-- Two texts without wildcards are one. -/
theorem Tame.append {text other : Text} (first : Tame text) (second : Tame other) :
    Tame (text ++ other) :=
  fun c inside => (List.mem_append.mp inside).elim (first c) (second c)

/-- A plain text holds no wildcards. -/
theorem tame_of_isPlain {text : Text} (plain : Text.IsPlain text) : Tame text := by
  intro c inside
  rw [Bool.eq_false_iff]
  intro odd
  have even := plain c inside
  simp only [isWild, Bool.or_eq_true, beq_iff_eq] at odd
  rcases odd with (rfl | rfl) | rfl <;> exact absurd even (by decide)

end Glob

namespace Artifact

variable {plan : Plan}

/-- No artifact lies below an entry of the directory of migrations. -/
theorem not_below_migrations (plain : plan.Plain) (artifact : Artifact) (name : Text) :
    ¬Artifact.migration.folder plan ++ [name] <+: artifact.folder plan := by
  rcases Plan.names_cases plain with ⟨home, source⟩ | ⟨rest, short, home, source⟩
  · cases artifact <;> simp [folder, home, source]
  · cases rest with
    | nil => cases artifact <;> simp [folder, home, source]
    | cons name more =>
      obtain rfl : more = [] := by simpa using short
      cases artifact <;> simp [folder, home, source]

/-- What the file of a migration ends with, whenever it was made. -/
def migrationEnding (plan : Plan) : Text := '_' :: Artifact.migration.fileName plan

/-- The directory of migrations ends with a name. -/
theorem leadNames_migrationDirectory (plan : Plan) :
    leadNames (migrationDirectory plan) = namesOf (migrationDirectory plan) := by
  have last : IsName ("migrations" : Text) := isName_of_isEnding (by decide)
  have split : namesOf (migrationDirectory plan) =
      (leadNames plan.projectRoot ++ (["database"] : List Text)) ++ [("migrations" : Text)] := by
    rw [namesOf_migrationDirectory, List.append_assoc]
    rfl
  exact leadNames_of_split split last

end Artifact

/-- A root that a search below it reads as it is written: it holds no wildcards, and behind points
at its front stands no slash. -/
structure SearchRoot (root : FilePath) : Prop where
  /-- It holds no wildcards. -/
  tame : Glob.Tame root
  /-- No slash stands behind points at its front. -/
  filled : isAbsolute root = false → ((leadNames root).dropWhile (· == ['.'])).head? ≠ some []

namespace Project

open Scaffold.Tree Artifact

variable {project : Project} {tree changed : Tree} {moment : Moment} {plan : Plan}
  {location : Location}

/-- The pattern of migrations is a star in front of their ending. -/
theorem migrationPattern_eq (project : Project) (plan : Plan) :
    project.migrationPattern (migrationDirectory plan) (Artifact.migration.fileName plan) =
      FilePath.join (project.pathOf (migrationDirectory plan)) ('*' :: migrationEnding plan) := by
  have lead : ("*_" : Text) = ['*', '_'] := by decide
  rw [migrationPattern, lead]
  rfl

/-- The directory of migrations holds no wildcards. -/
theorem tame_migrationDirectory (plain : plan.Plain) : Glob.Tame (migrationDirectory plan) := by
  have home : Glob.Tame plan.projectRoot := by
    unfold Plan.projectRoot
    cases found : plan.package with
    | none => exact fun c inside => absurd inside List.not_mem_nil
    | some scope =>
      have lead : Glob.Tame (Plan.packages ++ ['/']) := by
        unfold Glob.Tame
        decide
      have whole := lead.append (Glob.tame_of_isPlain (plain.package scope found))
      rw [List.append_assoc] at whole
      show Glob.Tame scope.root
      rw [Plan.root_eq]
      exact whole
  have literal : Glob.Tame ("database/migrations" : Text) ∧ Glob.Tame ['/'] := by
    unfold Glob.Tame
    decide
  unfold migrationDirectory FilePath.join
  split
  · exact literal.1
  · split
    · exact home.append literal.1
    · exact home.append (literal.2.append literal.1)

/-- The first name of a relative path is not empty, unless the path is. -/
theorem head?_namesOf_ne {path : FilePath} (filled : path ≠ []) (relative : isAbsolute path = false) :
    (namesOf path).head? ≠ some [] := by
  obtain ⟨c, rest, rfl⟩ := List.exists_cons_of_ne_nil filled
  have other : (c == '/') = false := by simpa [isAbsolute] using relative
  obtain ⟨first, more, names⟩ := List.exists_cons_of_ne_nil (namesOf_ne_nil rest)
  have split : namesOf (c :: rest) = (c :: first) :: more := by
    have behind : Text.splitWhere (· == '/') rest = first :: more := names
    show Text.splitWhere (· == '/') (c :: rest) = _
    rw [Text.splitWhere]
    simp [behind, other]
  rw [split]
  simp

/-- The search for migrations reads its pattern as it is written. -/
theorem starred_migrations (plain : plan.Plain) (root : SearchRoot project.root) :
    Glob.Starred (project.pathOf (migrationDirectory plan)) (migrationEnding plan) := by
  have straight := straight_migrationDirectory plain
  have last : IsName ("migrations" : Text) := isName_of_isEnding (by decide)
  have filled : migrationDirectory plan ≠ [] := join_ne_nil (by decide)
  have split : namesOf (project.pathOf (migrationDirectory plan)) =
      leadNames project.root ++ namesOf (migrationDirectory plan) := namesOf_join straight.relative
  have tame := tame_migrationDirectory plain
  refine ⟨?_, ⟨?_, join_ne_nil filled⟩, ?_, ?_, ?_⟩
  · have slash : Glob.Tame ['/'] := by
      unfold Glob.Tame
      decide
    unfold pathOf FilePath.join
    split
    · exact tame
    · split
      · exact root.tame.append tame
      · exact root.tame.append (slash.append tame)
  · rw [namesOf_migrationDirectory, ← List.append_assoc] at split
    have ends : namesOf (project.pathOf (migrationDirectory plan)) =
        (leadNames project.root ++ leadNames plan.projectRoot ++ (["database"] : List Text)) ++
          [("migrations" : Text)] := by
      rw [split, List.append_assoc _ _ [("migrations" : Text)]]
      rfl
    exact leadNames_of_split ends last
  · intro relative
    have free : isAbsolute project.root = false := by
      rw [← relative]
      exact (isAbsolute_join straight.relative).symm
    have own : (namesOf (migrationDirectory plan)).dropWhile (· == ['.']) =
        namesOf (migrationDirectory plan) := by
      obtain ⟨first, rest, names⟩ := List.exists_cons_of_ne_nil (namesOf_ne_nil (migrationDirectory plan))
      have named := straight.named
      rw [names, List.head?_cons, ne_eq, Option.some.injEq] at named
      simp [names, named]
    rw [split, List.dropWhile_append]
    split
    · rw [own]
      exact head?_namesOf_ne filled straight.relative
    · rename_i some
      obtain ⟨first, rest, names⟩ :=
        List.exists_cons_of_ne_nil fun none => some (List.isEmpty_iff.mpr none)
      have head := root.filled free
      rw [names] at head ⊢
      exact head
  · have literal : Glob.Tame ('_' :: ("create_" : Text)) ∧ Glob.Tame ("_table.php" : Text) := by
      unfold Glob.Tame
      decide
    exact (literal.1.append (Glob.tame_of_isPlain plain.names.table)).append literal.2
  · intro inside
    rcases List.mem_cons.mp inside with slash | inside
    · exact absurd slash (by decide)
    · exact (isName_fileName plain .migration).single inside

/-- The name that a migration is written under, given where the directory of migrations is in the
end: the first that is there already, or the one with the time in front. -/
def migrationName (plan : Plan) (moment : Moment) (tree : Tree) (location : Location) : Text :=
  (Text.least? (Glob.endingIn tree location (migrationEnding plan))).getD
    (moment.stamp ++ migrationEnding plan)

/-- The path of a migration, given where the directory of migrations is in the end. -/
theorem target_eq (plain : plan.Plain) (root : SearchRoot project.root)
    (wellFormed : tree.WellFormed) (begins : tree.node? project.start = some .directory)
    (climbs : tree.Climbs project.start project.root) (kept : tree.Extends changed)
    (reached : changed.locate project.start (project.pathOf (migrationDirectory plan)) =
      .ok location)
    {file : OutputFile} (kind : file.artifact = .migration)
    (own : file.path = file.artifact.path plan) {path : FilePath}
    (aimed : project.target tree moment file = .ok path) :
    path = FilePath.join (migrationDirectory plan) (migrationName plan moment tree location) := by
  have straight := straight_migrationDirectory plain
  have filled : migrationDirectory plan ≠ [] := join_ne_nil (by decide)
  obtain ⟨found, searched, rfl⟩ := target_migration plain kind own aimed
  rw [migrationPattern_eq] at searched
  obtain ⟨first, none⟩ :=
    Glob.fileName?_least_find? wellFormed begins (starred_migrations plain root) searched
  by_cases there : tree.node? location = some .directory
  · have before := locate_of_directory wellFormed begins climbs kept straight filled reached there
    rw [first location before there]
    rfl
  · have missing : found = [] := by
      refine none fun place before directory => there ?_
      have same := kept.locate before
      rw [reached, Except.ok.injEq] at same
      rw [same]
      exact directory
    have empty : Glob.endingIn tree location (migrationEnding plan) = [] := by
      rw [List.eq_nil_iff_forall_not_mem]
      intro name member
      exact there (wellFormed location name (Glob.mem_endingIn.mp member).1).2
    rw [missing, migrationName, empty]
    rfl

/-- The path of a migration where others are there already. -/
theorem target_of_least (plain : plan.Plain) (root : SearchRoot project.root)
    (wellFormed : tree.WellFormed) (begins : tree.node? project.start = some .directory)
    (reached : tree.locate project.start (project.pathOf (migrationDirectory plan)) = .ok location)
    (directory : tree.node? location = some .directory)
    {file : OutputFile} (kind : file.artifact = .migration)
    (own : file.path = file.artifact.path plan) {found : List FilePath}
    (searched : Glob.find? tree project.start (project.migrationPattern (migrationDirectory plan)
      (Artifact.migration.fileName plan)) = some found) {name : Text}
    (least : Text.least? (Glob.endingIn tree location (migrationEnding plan)) = some name)
    (moment : Moment) :
    project.target tree moment file = .ok (FilePath.join (migrationDirectory plan) name) := by
  have pattern := searched
  rw [migrationPattern_eq] at pattern
  have first := (Glob.fileName?_least_find? wellFormed begins (starred_migrations plain root)
    pattern).1 location reached directory
  rw [least] at first
  rw [kind] at own
  unfold target
  rw [if_pos kind, own, Artifact.placeOf_migration plain]
  simp only [searched, first]

/-- The directory of a migration that was written. -/
theorem locate_migrationDirectory (plain : plan.Plain) {name : Text} (isName : IsName name)
    (reached : tree.locate project.start
      (project.pathOf (FilePath.join (migrationDirectory plan) name)) = .ok location) :
    ∃ parent, tree.locate project.start (project.pathOf (migrationDirectory plan)) = .ok parent ∧
      tree.node? parent = some .directory ∧ location = parent ++ [name] := by
  have straight := straight_migrationDirectory plain
  have filled : migrationDirectory plan ≠ [] := join_ne_nil (by decide)
  have own : namesOf (FilePath.join (migrationDirectory plan) name) =
      namesOf (migrationDirectory plan) ++ [name] := by
    rw [namesOf_join isName.isAbsolute_eq, leadNames_migrationDirectory, isName.namesOf_eq]
  have relative : isAbsolute (FilePath.join (migrationDirectory plan) name) = false :=
    (isAbsolute_join isName.isAbsolute_eq).trans straight.relative
  obtain ⟨root, walked, below⟩ :=
    (locate_join_ok relative (join_ne_nil isName.ne_nil)).mp reached
  rw [own] at below
  obtain ⟨parent, through, directory, rfl⟩ := walk_concat_ok.mp below
  rw [isName.step_eq]
  exact ⟨parent, (locate_join_ok straight.relative filled).mpr ⟨root, walked, through⟩, directory,
    rfl⟩

/-- The place of a written migration. -/
theorem node?_migration (writes : project.dryRun = false) (wellFormed : tree.WellFormed)
    (begins : tree.node? project.start = some .directory) (plain : plan.Plain)
    {files : List OutputFile} {name : Text} (isName : IsName name) {later : List FilePath}
    (done : project.writeArtifacts moment tree files =
      (changed, .ok (FilePath.join (migrationDirectory plan) name :: later))) :
    ∃ parent, changed.locate project.start (project.pathOf (migrationDirectory plan)) =
        .ok parent ∧ changed.node? parent = some .directory ∧
      changed.locate project.start (project.pathOf
        (FilePath.join (migrationDirectory plan) name)) = .ok (parent ++ [name]) ∧
      changed.node? (parent ++ [name]) ≠ none := by
  obtain ⟨-, -, all, same, -, places, filled, -⟩ :=
    writeArtifacts_spec writes wellFormed begins done
  obtain ⟨first, others, rfl⟩ : ∃ first others, all = first :: others := by
    cases all with
    | nil => simp at same
    | cons first others => exact ⟨first, others, rfl⟩
  rw [List.map_cons, List.cons.injEq] at same
  obtain ⟨reached, -⟩ := places first List.mem_cons_self
  rw [← same.1] at reached
  obtain ⟨parent, above, directory, split⟩ := locate_migrationDirectory plain isName reached
  rw [split] at reached
  refine ⟨parent, above, directory, reached, ?_⟩
  have some : Written.contentAt? (first :: others) (parent ++ [name]) ≠ none := by
    rw [ne_eq, Written.contentAt?_eq_none]
    exact fun none => none first List.mem_cons_self split
  obtain ⟨content, there⟩ := Option.ne_none_iff_exists'.mp some
  rw [filled _ content there]
  simp

/-- The files that the search for migrations finds after artifacts were written: those that were
there, and the new one. -/
theorem mem_endingIn_written (writes : project.dryRun = false) (wellFormed : tree.WellFormed)
    (begins : tree.node? project.start = some .directory)
    (climbs : tree.Climbs project.start project.root) (plain : plan.Plain)
    {file : OutputFile} {rest : List OutputFile} (single : ∀ other ∈ rest, other.artifact ≠ .migration)
    (own : ∀ other ∈ file :: rest, other.path = other.artifact.path plan)
    {name : Text} (isName : IsName name) (ends : migrationEnding plan <:+ name)
    {later : List FilePath}
    (done : project.writeArtifacts moment tree (file :: rest) =
      (changed, .ok (FilePath.join (migrationDirectory plan) name :: later)))
    (reached : changed.locate project.start (project.pathOf (migrationDirectory plan)) =
      .ok location) {other : Text} :
    other ∈ Glob.endingIn changed location (migrationEnding plan) ↔
      other ∈ Glob.endingIn tree location (migrationEnding plan) ∨ other = name := by
  obtain ⟨parent, again, directory, path, there⟩ :=
    node?_migration writes wellFormed begins plain isName done
  obtain rfl : location = parent := by
    rw [reached, Except.ok.injEq] at again
    exact again
  rw [Glob.mem_endingIn, Glob.mem_endingIn]
  constructor
  · rintro ⟨now, ending⟩
    by_cases before : tree.node? (location ++ [other]) = none
    · obtain ⟨written, member, place, leads, lies⟩ :=
        writeArtifacts_new writes wellFormed begins climbs plain own done before now
      right
      obtain ⟨straight, names⟩ := names_inMigrations plain isName
      obtain ⟨base, walked, split⟩ := straight.location_eq (join_ne_nil isName.ne_nil) path
      rw [names, ← List.append_assoc] at split
      obtain ⟨rfl, -⟩ := List.append_inj' split rfl
      rcases List.mem_cons.mp member with rfl | member
      · rw [path, Except.ok.injEq] at leads
        rw [← leads] at lies
        have same := (List.prefix_append_right_inj _).mp lies
        simpa using same
      · obtain ⟨_, _, _, -, -, others, equal⟩ := writeArtifacts_cons_ok.mp done
        obtain ⟨-, rfl⟩ := List.cons.inj equal
        obtain ⟨source, listed, artifact⟩ := artifactPlace_of_mem_written plain
          (fun file inside => own file (List.mem_cons_of_mem _ inside)) others written member
        obtain ⟨title, -, titles, -⟩ := artifact.place
        have filled : written ≠ [] := ne_nil_of_names titles
        obtain ⟨root, again, rfl⟩ := artifact.straight.location_eq filled leads
        rw [walked, Except.ok.injEq] at again
        rw [← again, titles, List.append_assoc] at lies
        have lower := (List.prefix_append_right_inj _).mp lies
        exfalso
        rcases List.prefix_concat_iff.mp lower with whole | below
        · have folder := (List.append_inj' whole rfl).1
          exact single source listed (eq_migration_of_folder plain folder.symm)
        · exact not_below_migrations plain source.artifact other below
    · exact .inl ⟨before, ending⟩
  · rintro (⟨before, ending⟩ | rfl)
    · exact ⟨ne_none_writeArtifacts writes wellFormed begins done before, ending⟩
    · exact ⟨there, ends⟩

/-- A migration is written under a name that ends as those that the search finds. -/
theorem migrationName_spec (plain : plan.Plain) (wellFormed : tree.WellFormed) (moment : Moment)
    (location : Location) : IsName (migrationName plan moment tree location) ∧
      migrationEnding plan <:+ migrationName plan moment tree location := by
  unfold migrationName
  cases first : Text.least? (Glob.endingIn tree location (migrationEnding plan)) with
  | some name =>
    obtain ⟨there, ending⟩ := Glob.mem_endingIn.mp (Text.least?_spec first).1
    exact ⟨(wellFormed location name there).1, ending⟩
  | none => exact ⟨isName_found plain [] moment, List.suffix_append _ _⟩

/-- A migration that comes first is written under its name. -/
theorem written_eq_migrationName (writes : project.dryRun = false) (wellFormed : tree.WellFormed)
    (begins : tree.node? project.start = some .directory)
    (climbs : tree.Climbs project.start project.root) (root : SearchRoot project.root)
    (plain : plan.Plain) {file : OutputFile} {rest : List OutputFile}
    (kind : file.artifact = .migration) (own : file.path = file.artifact.path plan)
    {written : List FilePath}
    (done : project.writeArtifacts moment tree (file :: rest) = (changed, .ok written)) :
    ∃ location later, written =
        FilePath.join (migrationDirectory plan) (migrationName plan moment tree location) :: later ∧
      changed.locate project.start (project.pathOf (migrationDirectory plan)) = .ok location ∧
      changed.node? location = some .directory := by
  obtain ⟨path, middle, later, aimed, -, -, rfl⟩ := writeArtifacts_cons_ok.mp done
  obtain ⟨-, kept, -⟩ := writeArtifacts_spec writes wellFormed begins done
  obtain ⟨found, -, spelled⟩ := target_migration plain kind own aimed
  have first := done
  rw [spelled] at first
  obtain ⟨location, reached, directory, -, -⟩ :=
    node?_migration writes wellFormed begins plain (isName_found plain found moment) first
  have named := target_eq plain root wellFormed begins climbs kept reached kind own aimed
  exact ⟨location, later, by rw [named], reached, directory⟩

/-- **The migration keeps its name.** After an installation, and whatever else happened to other
files, the next one writes the migration to the same path, whatever the clock says. -/
theorem target_again (writes : project.dryRun = false) (wellFormed : tree.WellFormed)
    (begins : tree.node? project.start = some .directory)
    (climbs : tree.Climbs project.start project.root) (root : SearchRoot project.root)
    (plain : plan.Plain) {file : OutputFile} {rest : List OutputFile}
    (kind : file.artifact = .migration) (single : ∀ other ∈ rest, other.artifact ≠ .migration)
    (own : ∀ other ∈ file :: rest, other.path = other.artifact.path plan) {written : List FilePath}
    (done : project.writeArtifacts moment tree (file :: rest) = (changed, .ok written))
    {last : Tree} (whole : last.WellFormed) (kept : changed.Extends last)
    (same : ∀ parent name, migrationEnding plan <:+ name →
      (last.node? (parent ++ [name]) ≠ none ↔ changed.node? (parent ++ [name]) ≠ none))
    (again : Moment) :
    ∃ path later, written = path :: later ∧ project.target last again file = .ok path := by
  have ownFirst := own file List.mem_cons_self
  obtain ⟨location, later, rfl, reached, directory⟩ :=
    written_eq_migrationName writes wellFormed begins climbs root plain kind ownFirst done
  obtain ⟨_, _, _, aimed, -⟩ := writeArtifacts_cons_ok.mp done
  obtain ⟨found, searched, -⟩ := target_migration plain kind ownFirst aimed
  obtain ⟨-, extends_, -⟩ := writeArtifacts_spec writes wellFormed begins done
  obtain ⟨isName, ends⟩ := migrationName_spec plain wellFormed moment location
  refine ⟨_, later, rfl, ?_⟩
  have members : ∀ other, other ∈ Glob.endingIn last location (migrationEnding plan) ↔
      other ∈ Glob.endingIn tree location (migrationEnding plan) ∨
        other = migrationName plan moment tree location := by
    intro other
    rw [← mem_endingIn_written writes wellFormed begins climbs plain single own isName ends done
      reached, Glob.mem_endingIn, Glob.mem_endingIn]
    exact and_congr_left fun ending => same location other ending
  have least : Text.least? (Glob.endingIn last location (migrationEnding plan)) =
      some (migrationName plan moment tree location) := by
    cases before : Text.least? (Glob.endingIn tree location (migrationEnding plan)) with
    | none =>
      have empty := Text.least?_eq_none.mp before
      have only : Text.least? (Glob.endingIn last location (migrationEnding plan)) =
          Text.least? [migrationName plan moment tree location] :=
        Text.least_congr fun other => by rw [members, empty]; simp
      rw [only]
      rfl
    | some name =>
      have equal : migrationName plan moment tree location = name := by
        rw [migrationName, before]
        rfl
      rw [equal, ← before]
      refine Text.least_congr fun other => ?_
      rw [members, equal]
      refine ⟨fun either => either.elim id ?_, .inl⟩
      rintro rfl
      exact (Text.least?_spec before).1
  obtain ⟨more, next⟩ := Glob.exists_find? searched last
  exact target_of_least plain root whole (kept _ (extends_ _ begins)) (kept.locate reached)
    (kept _ directory) kind ownFirst next least again

end Project

end Scaffold
