import Scaffold.Proofs.Project.Straight
import Scaffold.Proofs.Project.Preservation

/-!
# Places of the files of a module

Which names lead to the artifacts of a plan (`Artifact.activeNames_path`) and to its shared files
(`Plan.Registers.sharedPlace`), and that no two of these lead to one place: artifacts and shared
files lie in different directories, except for the models of an application, whose names differ.
-/
namespace Scaffold

open FilePath

namespace Plan

/-- The names that lead to the directory of the files that are no classes. -/
def homeNames (plan : Plan) : List Text := activeNames (namesOf plan.projectRoot)

/-- The names that lead to the directory of the classes. -/
def sourceNames (plan : Plan) : List Text := activeNames (namesOf plan.sourceRoot)

variable {plan : Plan}

/-- The directory of all packages. -/
def packages : Text := "packages"

/-- The directory of the classes of a package. -/
def sources : Text := "src"

/-- The directory of a package is named by the package. -/
theorem root_eq (scope : PackageScope) : scope.root = packages ++ '/' :: scope.name := by
  have lead : ("packages/" : Text) = packages ++ ['/'] := by decide
  unfold PackageScope.root
  rw [lead]
  rw [List.append_assoc]
  rfl

/-- The directory of the classes of a package lies in that of the package. -/
theorem root_sources_eq (scope : PackageScope) :
    scope.root ++ ("/src" : Text) = scope.root ++ '/' :: sources := by
  have ending : ("/src" : Text) = '/' :: sources := by decide
  rw [ending]

/-- The names of the directory of a package. -/
theorem namesOf_root {scope : PackageScope} (plain : Text.IsPlain scope.name) :
    namesOf scope.root = [packages, scope.name] := by
  have slash : '/' ∉ packages := by decide
  rw [root_eq, namesOf, Text.splitOn_append_cons, Text.splitOn_of_notMem slash,
    Text.splitOn_of_notMem (plain.notMem (by decide))]
  rfl

/-- The names of the directory of the classes of a package. -/
theorem namesOf_root_sources {scope : PackageScope} (plain : Text.IsPlain scope.name) :
    namesOf (scope.root ++ ("/src" : Text)) = [packages, scope.name, sources] := by
  have slash : '/' ∉ sources := by decide
  have root : Text.splitOn '/' scope.root = [packages, scope.name] := namesOf_root plain
  rw [root_sources_eq, namesOf, Text.splitOn_append_cons, root, Text.splitOn_of_notMem slash]
  rfl

/-- The files lie in the project itself, or in a package. -/
theorem names_cases (plain : plan.Plain) :
    plan.homeNames = [] ∧ plan.sourceNames = (["app"] : List Text) ∨
    ∃ rest : List Text, rest.length ≤ 1 ∧ plan.homeNames = packages :: rest ∧
      plan.sourceNames = packages :: (rest ++ [sources]) := by
  have active : isIdle packages = false ∧ isIdle sources = false := by decide
  unfold homeNames sourceNames projectRoot sourceRoot
  cases found : plan.package with
  | none => exact .inl ⟨by decide, by decide⟩
  | some scope =>
    have named := plain.package scope found
    refine .inr ⟨activeNames [scope.name], List.length_filter_le _ _, ?_, ?_⟩
    · show activeNames (namesOf scope.root) = _
      rw [namesOf_root named]
      simp [activeNames, active]
    · show activeNames (namesOf (scope.root ++ ("/src" : Text))) = _
      rw [namesOf_root_sources named]
      simp [activeNames, active, List.filter_cons]
      split <;> rfl

/-- The directory of a package is straight. -/
theorem straight_root {scope : PackageScope} (plain : Text.IsPlain scope.name) :
    Straight scope.root := by
  have named : packages ≠ ['.'] ∧ packages ≠ ['.', '.'] := by decide
  have lead : packages.head? = some 'p' := by decide
  have point : scope.name ≠ ['.', '.'] := by
    intro same
    exact plain.notMem (c := '.') (by decide) (by rw [same]; exact List.mem_cons_self)
  refine ⟨?_, ?_, ?_⟩
  · rw [isAbsolute, root_eq, List.head?_append, lead]
    rfl
  · rw [namesOf_root plain]
    simp [Ne.symm named.2, Ne.symm point]
  · rw [namesOf_root plain]
    simpa using named.1

/-- The directory of the files that are no classes is straight. -/
theorem straight_projectRoot (plain : plan.Plain) : Straight plan.projectRoot := by
  unfold projectRoot
  cases found : plan.package with
  | none => exact .of_isPlain Text.IsPlain.nil
  | some scope => exact straight_root (plain.package scope found)

/-- The directory of the classes is straight. -/
theorem straight_sourceRoot (plain : plan.Plain) : Straight plan.sourceRoot := by
  unfold sourceRoot
  cases found : plan.package with
  | none => exact .of_isPlain (by unfold Text.IsPlain; decide)
  | some scope =>
    have named := plain.package scope found
    have root := straight_root named
    have other : sources ≠ ['.', '.'] := by decide
    have split : namesOf (scope.root ++ ("/src" : Text)) = namesOf scope.root ++ [sources] := by
      rw [namesOf_root named, namesOf_root_sources named]
      rfl
    refine ⟨?_, ?_, ?_⟩
    · have lead : packages.head? = some 'p' := by decide
      show isAbsolute (scope.root ++ ("/src" : Text)) = false
      rw [isAbsolute, root_eq, List.append_assoc, List.head?_append, lead]
      rfl
    · show ['.', '.'] ∉ namesOf (scope.root ++ ("/src" : Text))
      rw [split, List.mem_append, not_or]
      exact ⟨root.lower, by simpa using Ne.symm other⟩
    · show (namesOf (scope.root ++ ("/src" : Text))).head? ≠ _
      have headed := root.named
      rw [split]
      rw [namesOf_root named] at headed ⊢
      exact headed

end Plan

namespace Artifact

/-- The names that lead to the directory of an artifact. -/
def folder (plan : Plan) : Artifact → List Text
  | migration => plan.homeNames ++ (["database", "migrations"] : List Text)
  | model => plan.sourceNames ++ (["Models"] : List Text)
  | controller => plan.sourceNames ++ (["Http", "Controllers"] : List Text)
  | storeRequest | updateRequest => plan.sourceNames ++ (["Http", "Requests"] : List Text)
  | factory => plan.homeNames ++ (["database", "factories"] : List Text)
  | listPage | createPage | editPage | detailPage =>
    plan.homeNames ++ (["resources", "js", "pages"] : List Text) ++ activeNames [plan.names.route]
  | types => plan.homeNames ++ (["resources", "js", "types"] : List Text)
  | detailDialog =>
    plan.homeNames ++ (["resources", "js", "pages"] : List Text) ++
      activeNames [plan.names.route] ++ (["components"] : List Text)

/-- The name of the file of an artifact; that of a migration lacks the time in front. -/
def fileName (plan : Plan) : Artifact → Text
  | migration => ("create_" : Text) ++ plan.names.table ++ ("_table.php" : Text)
  | model => plan.names.model ++ (".php" : Text)
  | controller => plan.names.model ++ ("Controller.php" : Text)
  | storeRequest => ("Store" : Text) ++ plan.names.model ++ ("Request.php" : Text)
  | updateRequest => ("Update" : Text) ++ plan.names.model ++ ("Request.php" : Text)
  | factory => plan.names.model ++ ("Factory.php" : Text)
  | listPage => "index.tsx"
  | createPage => "create.tsx"
  | editPage => "edit.tsx"
  | types => plan.names.routeSingular ++ (".ts" : Text)
  | detailDialog => plan.names.routeSingular ++ ("-detail-modal.tsx" : Text)
  | detailPage => "show.tsx"

variable {plan : Plan}

/-- The file of an artifact has the name of an entry. -/
theorem isName_fileName (plain : plan.Plain) (artifact : Artifact) :
    IsName (artifact.fileName plan) := by
  have model : '/' ∉ plan.names.model := plain.names.model.notMem (by decide)
  have single : '/' ∉ plan.names.routeSingular := plain.names.routeSingular.notMem (by decide)
  have behind : ∀ {lead name : Text}, '/' ∉ lead → '/' ∉ name → '/' ∉ lead ++ name :=
    fun first second inside => (List.mem_append.mp inside).elim first second
  cases artifact with
  | migration =>
    have table : '/' ∉ plan.names.table := plain.names.table.notMem (by decide)
    exact isName_append (behind (by decide) table) (by decide)
  | model => exact isName_append model (by decide)
  | controller => exact isName_append model (by decide)
  | storeRequest => exact isName_append (behind (by decide) model) (by decide)
  | updateRequest => exact isName_append (behind (by decide) model) (by decide)
  | factory => exact isName_append model (by decide)
  | types => exact isName_append single (by decide)
  | detailDialog => exact isName_append single (by decide)
  | listPage => exact @isName_of_isEnding "index.tsx" (by decide)
  | createPage => exact @isName_of_isEnding "create.tsx" (by decide)
  | editPage => exact @isName_of_isEnding "edit.tsx" (by decide)
  | detailPage => exact @isName_of_isEnding "show.tsx" (by decide)

/-- The names and the shape of a file in a directory below another one. -/
theorem names_below {root directory name : FilePath} (first : Straight root)
    (second : Straight directory) (isName : IsName name) :
    Straight (FilePath.join (FilePath.join root directory) name) ∧
      activeNames (namesOf (FilePath.join (FilePath.join root directory) name)) =
        activeNames (namesOf root) ++ activeNames (namesOf directory) ++ [name] := by
  refine ⟨(first.join second).join (.of_isName isName), ?_⟩
  rw [activeNames_join isName.isAbsolute_eq, activeNames_join second.relative,
    isName.activeNames_eq]

/-- The directory of the pages. -/
theorem names_pageDirectory (plain : plan.Plain) : Straight (pageDirectory plan) ∧
    activeNames (namesOf (pageDirectory plan)) = plan.homeNames ++
      (["resources", "js", "pages"] : List Text) ++ activeNames [plan.names.route] := by
  have pages : Straight ("resources/js/pages" : Text) := by decide
  have route := Straight.of_isPlain plain.names.route
  have literal : activeNames (namesOf ("resources/js/pages" : Text)) =
      (["resources", "js", "pages"] : List Text) := by decide
  have own : namesOf plan.names.route = [plan.names.route] :=
    Text.splitOn_of_notMem (plain.names.route.notMem (by decide))
  refine ⟨((Plan.straight_projectRoot plain).join pages).join route, ?_⟩
  rw [pageDirectory, activeNames_join route.relative, activeNames_join pages.relative, literal, own]
  rfl

/-- The path of an artifact is straight and leads to its file in its directory. -/
theorem names_path (plain : plan.Plain) (artifact : Artifact) :
    Straight (artifact.path plan) ∧
      activeNames (namesOf (artifact.path plan)) =
        artifact.folder plan ++ [artifact.fileName plan] := by
  have named := isName_fileName plain artifact
  have home := Plan.straight_projectRoot plain
  have source := Plan.straight_sourceRoot plain
  -- Below the directory of the classes or beside it, in a directory with a fixed name.
  have inSource : ∀ {directory : FilePath} {names : List Text}, Straight directory →
      activeNames (namesOf directory) = names →
      Straight (sourcePath plan directory (artifact.fileName plan)) ∧
        activeNames (namesOf (sourcePath plan directory (artifact.fileName plan))) =
          plan.sourceNames ++ names ++ [artifact.fileName plan] := by
    rintro directory names straight rfl
    exact names_below source straight named
  have inHome : ∀ {directory : FilePath} {names : List Text}, Straight directory →
      activeNames (namesOf directory) = names →
      Straight (projectPath plan directory (artifact.fileName plan)) ∧
        activeNames (namesOf (projectPath plan directory (artifact.fileName plan))) =
          plan.homeNames ++ names ++ [artifact.fileName plan] := by
    rintro directory names straight rfl
    exact names_below home straight named
  obtain ⟨pages, pageNames⟩ := names_pageDirectory plain
  have onPage : Straight (FilePath.join (pageDirectory plan) (artifact.fileName plan)) ∧
      activeNames (namesOf (FilePath.join (pageDirectory plan) (artifact.fileName plan))) =
        plan.homeNames ++ (["resources", "js", "pages"] : List Text) ++
          activeNames [plan.names.route] ++ [artifact.fileName plan] := by
    refine ⟨pages.join (.of_isName named), ?_⟩
    rw [activeNames_join named.isAbsolute_eq, pageNames, named.activeNames_eq]
  cases artifact with
  | migration => exact inHome (by decide +kernel) (by decide +kernel)
  | model => exact inSource (by decide +kernel) (by decide +kernel)
  | controller => exact inSource (by decide +kernel) (by decide +kernel)
  | storeRequest => exact inSource (by decide +kernel) (by decide +kernel)
  | updateRequest => exact inSource (by decide +kernel) (by decide +kernel)
  | factory => exact inHome (by decide +kernel) (by decide +kernel)
  | types => exact inHome (by decide +kernel) (by decide +kernel)
  | listPage => exact onPage
  | createPage => exact onPage
  | editPage => exact onPage
  | detailPage => exact onPage
  | detailDialog =>
    have components : Straight ("components" : Text) := by decide +kernel
    have names : activeNames (namesOf ("components" : Text)) = (["components"] : List Text) := by
      decide +kernel
    have below := names_below pages components named
    rw [pageNames, names] at below
    exact below

/-- Which directories artifacts lie in: none in one of the shared files, and only the model among the
models of the application or beside the generated ones. -/
theorem folder_cases (plain : plan.Plain) (artifact : Artifact) :
    artifact.folder plan ≠ (["routes"] : List Text) ∧
    artifact.folder plan ≠ (["database", "seeders"] : List Text) ∧
    artifact.folder plan ≠ (["resources", "js", "config"] : List Text) ∧
    (artifact.folder plan = (["app", "Models"] : List Text) → artifact = .model) ∧
    (artifact.folder plan = plan.sourceNames ++ (["Models"] : List Text) → artifact = .model) := by
  rcases Plan.names_cases plain with ⟨home, source⟩ | ⟨rest, short, home, source⟩
  · cases artifact <;> simp [folder, home, source]
  · match rest, short with
    | [], _ => cases artifact <;> simp [folder, home, source]
    | [name], _ => cases artifact <;> simp [folder, home, source]

/-- The first artifact that lies in the directory of an artifact. -/
def shelf : Artifact → Artifact
  | updateRequest => storeRequest
  | createPage | editPage | detailPage => listPage
  | other => other

/-- The first artifact that lies in a directory, read off its names behind those of the project: the
second or the third tells it, and the dialog lies below the other pages. -/
def shelfAt (plan : Plan) (names : List Text) : Artifact :=
  let inside := names.drop plan.homeNames.length
  if inside[1]? = some ("migrations" : Text) then migration
  else if inside[1]? = some ("factories" : Text) then factory
  else if inside[1]? = some ("Models" : Text) then model
  else if inside[2]? = some ("Controllers" : Text) then controller
  else if inside[2]? = some ("Requests" : Text) then storeRequest
  else if inside[2]? = some ("types" : Text) then types
  else if names = listPage.folder plan then listPage
  else detailDialog

/-- It is read off the directory of every artifact. -/
theorem shelfAt_folder (plain : plan.Plain) (artifact : Artifact) :
    shelfAt plan (artifact.folder plan) = artifact.shelf := by
  obtain ⟨base, source⟩ : ∃ base, plan.sourceNames = plan.homeNames ++ [base] := by
    rcases Plan.names_cases plain with ⟨home, source⟩ | ⟨rest, -, home, source⟩
    · exact ⟨"app", by rw [home, source]; rfl⟩
    · exact ⟨Plan.sources, by rw [home, source]; rfl⟩
  cases artifact <;> simp [shelfAt, folder, source, shelf]

/-- Artifacts that lie in one directory do so in every plan. -/
theorem shelf_eq_of_folder (plain : plan.Plain) {artifact other : Artifact}
    (same : artifact.folder plan = other.folder plan) : artifact.shelf = other.shelf := by
  rw [← shelfAt_folder plain artifact, same, shelfAt_folder plain other]

/-- The names of the artifacts that share a directory begin differently. -/
theorem head?_fileName (plan : Plan) :
    (storeRequest.fileName plan).head? = some 'S' ∧
    (updateRequest.fileName plan).head? = some 'U' ∧
    (listPage.fileName plan).head? = some 'i' ∧ (createPage.fileName plan).head? = some 'c' ∧
    (editPage.fileName plan).head? = some 'e' ∧ (detailPage.fileName plan).head? = some 's' := by
  have requests : ("Store" : Text).head? = some 'S' ∧ ("Update" : Text).head? = some 'U' := by
    decide
  have pages : ("index.tsx" : Text).head? = some 'i' ∧ ("create.tsx" : Text).head? = some 'c' ∧
      ("edit.tsx" : Text).head? = some 'e' ∧ ("show.tsx" : Text).head? = some 's' := by
    decide
  have model : ∀ lead : Text, lead.head?.isSome = true →
      (lead ++ plan.names.model ++ ("Request.php" : Text)).head? = lead.head? := by
    intro lead filled
    rw [List.head?_append, List.head?_append]
    cases first : lead.head? with
    | none => simp [first] at filled
    | some c => rfl
  refine ⟨?_, ?_, pages⟩
  · exact (model "Store" (by rw [requests.1]; rfl)).trans requests.1
  · exact (model "Update" (by rw [requests.2]; rfl)).trans requests.2

/-- Artifacts that lie in one directory have different names. -/
theorem eq_of_place (plain : plan.Plain) {artifact other : Artifact}
    (folders : artifact.folder plan = other.folder plan)
    (names : artifact.fileName plan = other.fileName plan) : artifact = other := by
  have shelves := shelf_eq_of_folder plain folders
  have heads := congrArg List.head? names
  obtain ⟨store, update, list, create, edit, detail⟩ := head?_fileName plan
  cases artifact <;> cases other <;>
    first
    | rfl
    | exact absurd shelves (by decide)
    | simp only [store, update, list, create, edit, detail, Option.some.injEq, Char.reduceEq]
        at heads

/-- No other artifact lies in the directory of the migration. -/
theorem eq_migration_of_folder (plain : plan.Plain) {artifact : Artifact}
    (same : artifact.folder plan = Artifact.migration.folder plan) : artifact = .migration := by
  have shelves := shelf_eq_of_folder plain same
  revert shelves
  cases artifact <;> decide

end Artifact

namespace Plan

/-- The place of a shared file: its path is straight and ends with a name that is none of a copy,
and no artifact has the same names. -/
structure SharedPlace (plan : Plan) (file : FilePath) : Prop where
  /-- The path is straight. -/
  straight : Straight file
  /-- It ends with a name, and no artifact has its names. -/
  place : ∃ front name, namesOf file = front ++ [name] ∧ IsName name ∧
    name.getLast? ≠ some 'k' ∧
    ∀ artifact : Artifact, artifact.folder plan = activeNames front →
      artifact = .model ∧ artifact.fileName plan ≠ name

/-- A shared file has a path. -/
theorem SharedPlace.ne_nil {plan : Plan} {file : FilePath} (shared : plan.SharedPlace file) :
    file ≠ [] := by
  obtain ⟨front, name, split, isName, -⟩ := shared.place
  rintro rfl
  have empty : ([] : List Text) ++ [[]] = front ++ [name] := split
  exact isName.ne_nil ((List.append_inj' empty rfl).2 |> List.singleton_inj.mp).symm

/-- The file of a model that is not the plan's own, in a directory of models. -/
theorem sharedPlace_model {plan : Plan} {directory : FilePath} {folder : List Text} {target : Text}
    (straight : Straight directory) (names : activeNames (namesOf directory) = folder)
    (single : '/' ∉ target) (other : target ≠ plan.names.model)
    (apart : ∀ artifact : Artifact, artifact.folder plan = folder → artifact = .model) :
    plan.SharedPlace (FilePath.join directory (modelFile target)) := by
  have isName : IsName (modelFile target) := isName_append single (by decide)
  have last : (".php" : Text).getLast? = some 'p' := by decide
  refine ⟨straight.join (.of_isName isName), leadNames directory, modelFile target, ?_, isName,
    ?_, ?_⟩
  · rw [namesOf_join isName.isAbsolute_eq, isName.namesOf_eq]
  · rw [modelFile, List.getLast?_append, last, Option.some_or]
    decide
  · intro artifact same
    rw [activeNames_leadNames, names] at same
    obtain rfl := apart artifact same
    refine ⟨rfl, fun equal => other ?_⟩
    exact (List.append_cancel_right equal).symm

/-- The place of the file of every registration. -/
theorem Registers.sharedPlace {plan : Plan} {registration : Registration} (plain : plan.Plain)
    (targets : ∀ relationship ∈ plan.relationships, '/' ∉ relationship.target)
    (made : plan.Registers Layout.standard registration) : plan.SharedPlace registration.file := by
  have literal : ∀ {file : FilePath} {folder : List Text} {name : Text}, Straight file →
      namesOf file = folder ++ [name] ∧ isEnding name = true ∧ name.getLast? ≠ some 'k' ∧
        activeNames folder = folder →
      (∀ artifact : Artifact, artifact.folder plan ≠ folder) → plan.SharedPlace file := by
    rintro file folder name straight ⟨names, ending, last, active⟩ apart
    exact ⟨straight, folder, name, names, isName_of_isEnding ending, last,
      fun artifact same => absurd (same.trans active) (apart artifact)⟩
  have cases := Artifact.folder_cases plain
  have routes : plan.SharedPlace Layout.standard.routes :=
    @literal _ ["routes"] "web.php" (by decide +kernel) (by decide +kernel)
      fun artifact => (cases artifact).1
  have permissions : plan.SharedPlace Layout.standard.permissionSeeder :=
    @literal _ ["database", "seeders"] "PermissionSeeder.php" (by decide +kernel)
      (by decide +kernel) fun artifact => (cases artifact).2.1
  have navigation : plan.SharedPlace Layout.standard.navigation :=
    @literal _ ["resources", "js", "config"] "navigation.ts" (by decide +kernel)
      (by decide +kernel) fun artifact => (cases artifact).2.2.1
  have seeder : plan.SharedPlace Layout.standard.databaseSeeder :=
    @literal _ ["database", "seeders"] "DatabaseSeeder.php" (by decide +kernel)
      (by decide +kernel) fun artifact => (cases artifact).2.1
  rcases made with shared | ⟨accessor, listed, candidate, found, rfl⟩
  · simp only [sharedEntries, List.cons_append, List.mem_cons, List.mem_append, List.mem_map,
      List.not_mem_nil, or_false] at shared
    rcases shared with rfl | ⟨dependency, -, rfl⟩ | rfl | rfl | rfl | rfl
    · exact routes
    · exact routes
    · exact permissions
    · exact navigation
    · exact navigation
    · exact seeder
  · obtain ⟨relationship, member, rfl⟩ := List.mem_map.mp listed
    obtain ⟨own, reverse⟩ := List.mem_filter.mp member
    have other : relationship.target ≠ plan.names.model := by
      simp only [Relationship.isSelfReference, Bool.and_eq_true, Bool.not_eq_eq_eq_not,
        Bool.not_true, beq_eq_false_iff_ne] at reverse
      exact reverse.2
    have models : Straight ("Models" : Text) := by decide
    have modelNames : activeNames (namesOf ("Models" : Text)) = (["Models"] : List Text) := by
      decide
    have beside : plan.SharedPlace (FilePath.join (FilePath.join plan.sourceRoot ("Models" : Text))
        (modelFile relationship.target)) := by
      refine sharedPlace_model ((straight_sourceRoot plain).join models) ?_
        (targets relationship own) other fun artifact => (cases artifact).2.2.2.2
      rw [activeNames_join models.relative, modelNames]
      rfl
    have shared : plan.SharedPlace (FilePath.join Layout.standard.models
        (modelFile relationship.target)) :=
      sharedPlace_model (by decide) (by decide) (targets relationship own) other
        fun artifact => (cases artifact).2.2.2.1
    unfold modelCandidates at found
    simp only at found
    split at found
    · rw [List.mem_singleton.mp found]
      exact shared
    · rcases List.mem_cons.mp found with same | later
      · rw [same]
        exact beside
      · rw [List.mem_singleton.mp later]
        exact shared

end Plan

end Scaffold
