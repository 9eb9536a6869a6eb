import Scaffold.Proofs.Project.Places
import Scaffold.Proofs.Registry.Soundness

/-!
# Where the entries of a plan go

In the standard layout an entry is the import of the icon, the item of the menu, or goes to the region
and the anchor of its file, and this is not the navigation (`Registers.cases`). Where the navigation
has a file of its own, which it has there (`navigatesAlone`), the icon and the item are all that is
pending for it (`NavigatesAlone.filter_eq`).
-/
namespace Scaffold

open FilePath

namespace Plan

open Project SharedFile

variable {plan : Plan} {registration : Registration}

/-- The names that lead to the navigation. -/
def navigationNames : List Text := ["resources", "js", "config", "navigation.ts"]

/-- The region and the anchor of the entries in the other shared files. -/
def regionAt (names : List Text) : Text × Anchor :=
  if names = (["routes", "web.php"] : List Text) then ("routes", .routes)
  else if names = (["database", "seeders", "PermissionSeeder.php"] : List Text) then
    ("permissions", .permissions)
  else if names = (["database", "seeders", "DatabaseSeeder.php"] : List Text) then
    ("seeders", .seeder)
  else ("relations", .classEnd)

/-- They are known, and their markers have no blanks at their ends. -/
theorem tidy_regionAt (names : List Text) : Tidy (regionAt names).1 := by
  have known : (regionAt names).1 ∈ regions := by
    unfold regionAt
    split
    · exact (by decide : ("routes" : Text) ∈ regions)
    · split
      · exact (by decide : ("permissions" : Text) ∈ regions)
      · split
        · exact (by decide : ("seeders" : Text) ∈ regions)
        · exact (by decide : ("relations" : Text) ∈ regions)
  exact (tidy_of_mem_regions _ known).1

/-- The file of a model lies in a directory of models. -/
theorem names_modelCandidate {target : Text} (single : '/' ∉ target)
    {candidate : FilePath} (found : candidate ∈ plan.modelCandidates .standard target) :
    ∃ front, activeNames (namesOf candidate) = front ++ [("Models" : Text), modelFile target] := by
  have isName : IsName (modelFile target) := isName_append single (by decide)
  have models : IsName ("Models" : Text) := isName_of_isEnding (by decide)
  have standard : activeNames (namesOf Layout.standard.models) = (["app", "Models"] : List Text) := by
    decide
  have beside : activeNames (namesOf (FilePath.join plan.sourceRoot ("Models" : Text))) =
      activeNames (namesOf plan.sourceRoot) ++ [("Models" : Text)] := by
    rw [activeNames_join models.isAbsolute_eq, models.activeNames_eq]
  have cases : candidate = FilePath.join Layout.standard.models (modelFile target) ∨
      candidate = FilePath.join (FilePath.join plan.sourceRoot ("Models" : Text))
        (modelFile target) := by
    unfold modelCandidates at found
    simp only at found
    split at found
    · exact .inl (List.mem_singleton.mp found)
    · rcases List.mem_cons.mp found with same | later
      · exact .inr same
      · exact .inl (List.mem_singleton.mp later)
  rcases cases with rfl | rfl
  · refine ⟨[("app" : Text)], ?_⟩
    rw [activeNames_join isName.isAbsolute_eq, isName.activeNames_eq, standard]
    rfl
  · refine ⟨activeNames (namesOf plan.sourceRoot), ?_⟩
    rw [activeNames_join isName.isAbsolute_eq, isName.activeNames_eq, beside]
    simp

/-- The region and the anchor of an entry are those of its file, and this is not the navigation. -/
def Placed (registration : Registration) : Prop :=
  activeNames (namesOf registration.file) ≠ navigationNames ∧
    (registration.region, registration.anchor) = regionAt (activeNames (namesOf registration.file))

/-- An accessor is placed. -/
theorem placed_accessor {accessor : ReverseAccessor} (single : '/' ∉ accessor.target)
    {candidate : FilePath} (found : candidate ∈ plan.modelCandidates .standard accessor.target) :
    Placed (accessor.registration candidate) := by
  obtain ⟨front, names⟩ := names_modelCandidate single found
  have apart : ∀ literal : List Text, literal.dropLast.getLast? ≠ some ("Models" : Text) →
      activeNames (namesOf candidate) ≠ literal := by
    rintro _ other rfl
    rw [names] at other
    simp at other
  refine ⟨apart _ (by decide), ?_⟩
  show (("relations" : Text), Anchor.classEnd) = regionAt (activeNames (namesOf candidate))
  unfold regionAt
  rw [if_neg (apart _ (by decide)), if_neg (apart _ (by decide)),
    if_neg (apart _ (by decide))]

/-- So are the routes, the permissions and the making of records. -/
theorem placed_shared (plan : Plan) : Placed (plan.resourceRoute .standard) ∧
    (∀ dependency, Placed (plan.cascadeRoute .standard dependency)) ∧
    Placed (plan.permissionEntry .standard) ∧ Placed (plan.seederEntry .standard) := by
  have literal : (activeNames (namesOf Layout.standard.routes) ≠ navigationNames ∧
      (("routes" : Text), Anchor.routes) =
        regionAt (activeNames (namesOf Layout.standard.routes))) ∧
      (activeNames (namesOf Layout.standard.permissionSeeder) ≠ navigationNames ∧
      (("permissions" : Text), Anchor.permissions) =
        regionAt (activeNames (namesOf Layout.standard.permissionSeeder))) ∧
      activeNames (namesOf Layout.standard.databaseSeeder) ≠ navigationNames ∧
      (("seeders" : Text), Anchor.seeder) =
        regionAt (activeNames (namesOf Layout.standard.databaseSeeder)) := by
    unfold Layout.standard navigationNames regionAt Anchor.routes Anchor.permissions Anchor.seeder
    simp (disch := exact rfl) only [Text.toList_literal, -String.reduceToList]
    decide +kernel
  exact ⟨literal.1, fun _ => literal.1, literal.2.1, literal.2.2⟩

/-- An entry is the icon, the item of a menu, or placed. -/
theorem Registers.cases (targets : ∀ relationship ∈ plan.relationships, '/' ∉ relationship.target)
    (made : plan.Registers .standard registration) : registration = plan.iconEntry .standard ∨
      registration = plan.menuEntry .standard ∨ Placed registration := by
  obtain ⟨routes, cascades, permissions, seeder⟩ := placed_shared plan
  rcases made with shared | ⟨accessor, listed, candidate, found, rfl⟩
  · simp only [sharedEntries, List.cons_append, List.mem_cons, List.mem_append, List.mem_map,
      List.not_mem_nil, or_false] at shared
    rcases shared with rfl | ⟨dependency, -, rfl⟩ | rfl | same | same | rfl
    · exact .inr (.inr routes)
    · exact .inr (.inr (cascades dependency))
    · exact .inr (.inr permissions)
    · exact .inl same
    · exact .inr (.inl same)
    · exact .inr (.inr seeder)
  · obtain ⟨relationship, member, rfl⟩ := List.mem_map.mp listed
    exact .inr (.inr (placed_accessor (targets relationship (List.mem_filter.mp member).1) found))

/-- The regions outside the navigation. -/
def otherRegions : List Text := ["routes", "permissions", "seeders", "relations"]

/-- The entries of the navigation stand in none of them. -/
theorem region_notMem_otherRegions {layout : Layout}
    (own : registration = plan.iconEntry layout ∨ registration = plan.menuEntry layout) :
    registration.region ∉ otherRegions := by
  have apart : ∀ region ∈ (["navigation-icons", "navigation", "setup-navigation"] : List Text),
      region ∉ otherRegions := by decide
  rcases own with rfl | rfl
  · exact apart _ List.mem_cons_self
  · exact apart _ (List.mem_cons_of_mem _ (plan.region_menuEntry layout))

end Plan

namespace Project

open Plan

variable {project : Project} {tree : Tree} {plan : Plan}

/-- No other entry belongs to the navigation file than the icon and the item of the menu. -/
def NavigatesAlone (project : Project) (plan : Plan) : Prop :=
  ∀ registration, plan.Registers project.layout registration →
    FilePath.same registration.file project.layout.navigation = true →
    registration = plan.iconEntry project.layout ∨ registration = plan.menuEntry project.layout

/-- They are what is pending for it. -/
theorem NavigatesAlone.filter_eq (alone : project.NavigatesAlone plan) :
    ((project.pending tree plan).filter fun registration =>
      FilePath.same registration.file project.layout.navigation) =
        [plan.iconEntry project.layout, plan.menuEntry project.layout] := by
  have known : ("routes" : Text) ∈ otherRegions ∧ ("permissions" : Text) ∈ otherRegions ∧
      ("seeders" : Text) ∈ otherRegions ∧ ("relations" : Text) ∈ otherRegions := by decide
  have none : ∀ part ⊆ project.pending tree plan,
      (∀ registration ∈ part, registration.region ∈ otherRegions) →
      part.filter (fun registration =>
        FilePath.same registration.file project.layout.navigation) = [] := by
    intro part among others
    rw [List.filter_eq_nil_iff]
    intro registration member same
    exact region_notMem_otherRegions
      (alone registration (registers_of_mem_pending (among member)) same) (others registration member)
  have split : project.pending tree plan = (plan.resourceRoute project.layout ::
      plan.dependencies.map (plan.cascadeRoute project.layout) ++
        [plan.permissionEntry project.layout]) ++
      [plan.iconEntry project.layout, plan.menuEntry project.layout] ++
      (plan.seederEntry project.layout :: project.accessorEntries tree plan) := by
    simp [pending, sharedEntries]
  have front : ∀ registration ∈ plan.resourceRoute project.layout ::
      plan.dependencies.map (plan.cascadeRoute project.layout) ++
        [plan.permissionEntry project.layout], registration.region ∈ otherRegions := by
    intro registration member
    simp only [List.cons_append, List.mem_cons, List.mem_append, List.mem_map, List.not_mem_nil,
      or_false] at member
    rcases member with rfl | ⟨dependency, -, rfl⟩ | rfl
    · exact known.1
    · exact known.1
    · exact known.2.1
  have behind : ∀ registration ∈ plan.seederEntry project.layout :: project.accessorEntries tree plan,
      registration.region ∈ otherRegions := by
    intro registration member
    rcases List.mem_cons.mp member with rfl | member
    · exact known.2.2.1
    · obtain ⟨accessor, -, found⟩ := List.mem_filterMap.mp member
      obtain ⟨candidate, -, rfl⟩ := Option.map_eq_some_iff.mp found
      exact known.2.2.2
  have own : FilePath.same project.layout.navigation project.layout.navigation = true := by
    simp [FilePath.same]
  have icon : (plan.iconEntry project.layout).file = project.layout.navigation := rfl
  have menu : (plan.menuEntry project.layout).file = project.layout.navigation := rfl
  rw [split] at none ⊢
  rw [List.filter_append, List.filter_append,
    none _ (List.subset_append_of_subset_left _ (List.subset_append_left _ _)) front,
    none _ (List.subset_append_right _ _) behind]
  simp [icon, menu, own]

/-- In the standard layout the navigation stands alone. -/
theorem navigatesAlone (derived : plan.Derived) (standard : project.layout = .standard)
    (targets : ∀ relationship ∈ plan.relationships, '/' ∉ relationship.target) :
    project.NavigatesAlone plan := by
  intro registration made same
  rw [standard] at made same ⊢
  rcases made.cases targets with rfl | rfl | placed
  · exact .inl rfl
  · exact .inr rfl
  · have navigation : activeNames (namesOf Layout.standard.navigation) = navigationNames := by
      decide
    have icon : plan.Registers .standard (plan.iconEntry .standard) := by
      simp [Registers, sharedEntries]
    have own := (made.sharedPlace derived.plain targets).straight
    have names := (own.same_iff (icon.sharedPlace derived.plain targets).straight).mp same
    exact absurd (names.trans navigation) placed.1

end Project

end Scaffold
