import Scaffold.Proofs.Text.Atom
import Scaffold.Project.Tree

/-!
# Where paths lead

A walk along names is a walk along the first of them and then along the others (`walk_append_ok`),
and only directories count for it (`walk_mono`). So a path below another one leads from where this
leads (`locate_join_ok`), and what is at its end lies as many names deeper as lead somewhere
(`walk_below`).
-/
namespace Scaffold

/-- A name that leads to the directory that it starts from. -/
def isIdle (name : Text) : Bool := name == [] || name == ['.']

/-- A name that an entry of a directory has. -/
structure IsName (name : Text) : Prop where
  /-- It leads somewhere else. -/
  active : isIdle name = false
  /-- It does not lead to the directory above. -/
  lower : name ≠ ['.', '.']
  /-- It is one name. -/
  single : '/' ∉ name

instance (name : Text) : Decidable (IsName name) :=
  decidable_of_iff (isIdle name = false ∧ name ≠ ['.', '.'] ∧ '/' ∉ name)
    ⟨fun ⟨active, lower, single⟩ => ⟨active, lower, single⟩,
      fun ⟨active, lower, single⟩ => ⟨active, lower, single⟩⟩

/-- The names that lead somewhere. -/
def activeNames (names : List Text) : List Text := names.filter (!isIdle ·)

/-- The names of a path. -/
def namesOf (path : FilePath) : List Text := Text.splitOn '/' path

namespace IsName

variable {name : Text}

/-- A name is not empty. -/
theorem ne_nil (isName : IsName name) : name ≠ [] := by
  rintro rfl
  exact absurd isName.active (by decide)

/-- A name is not a point. -/
theorem ne_point (isName : IsName name) : name ≠ ['.'] := by
  rintro rfl
  exact absurd isName.active (by decide)

/-- A name is a component of a path. -/
theorem component?_eq (isName : IsName name) :
    FilePath.component? name = some (.name name) := by
  simp [FilePath.component?, isName.ne_nil, isName.ne_point, isName.lower]

/-- A name leads to an entry of the directory. -/
theorem step_eq (isName : IsName name) (location : Location) :
    Tree.step location name = location ++ [name] := by
  simp [Tree.step, isName.ne_nil, isName.ne_point, isName.lower]

/-- A name is its only name. -/
theorem namesOf_eq (isName : IsName name) : namesOf name = [name] :=
  Text.splitOn_of_notMem isName.single

/-- A name is a relative path. -/
theorem isAbsolute_eq (isName : IsName name) : FilePath.isAbsolute name = false := by
  obtain ⟨c, rest, rfl⟩ := List.exists_cons_of_ne_nil isName.ne_nil
  have other : c ≠ '/' := fun same => isName.single (by simp [same])
  simpa [FilePath.isAbsolute] using other

end IsName

/-- An idle name leads nowhere else. -/
theorem Tree.step_of_isIdle {name : Text} (idle : isIdle name = true) (location : Location) :
    Tree.step location name = location := by
  simp only [isIdle, Bool.or_eq_true, beq_iff_eq] at idle
  simp [Tree.step, idle]

/-- A path has at least one name. -/
theorem namesOf_ne_nil (path : FilePath) : namesOf path ≠ [] := Text.splitWhere_ne_nil _ path

namespace Tree

variable {tree other : Tree} {location last : Location} {names : List Text}

/-- A walk goes on from a directory. -/
theorem walk_cons_ok {name : Text} : tree.walk location (name :: names) = .ok last ↔
    tree.node? location = some .directory ∧ tree.walk (step location name) names = .ok last := by
  rw [walk]
  cases node : tree.node? location with
  | none => simp
  | some found => cases found <;> simp

/-- A walk along two lists of names is two walks. -/
theorem walk_append_ok {more : List Text} : tree.walk location (names ++ more) = .ok last ↔
    ∃ middle, tree.walk location names = .ok middle ∧ tree.walk middle more = .ok last := by
  induction names generalizing location with
  | nil => simp [walk]
  | cons name rest ih =>
    rw [List.cons_append, walk_cons_ok, ih]
    constructor
    · rintro ⟨directory, middle, first, second⟩
      exact ⟨middle, walk_cons_ok.mpr ⟨directory, first⟩, second⟩
    · rintro ⟨middle, first, second⟩
      obtain ⟨directory, behind⟩ := walk_cons_ok.mp first
      exact ⟨directory, middle, behind, second⟩

/-- The last step of a walk. -/
theorem walk_concat_ok {name : Text} : tree.walk location (names ++ [name]) = .ok last ↔
    ∃ middle, tree.walk location names = .ok middle ∧ tree.node? middle = some .directory ∧
      last = step middle name := by
  rw [walk_append_ok]
  constructor
  · rintro ⟨middle, first, second⟩
    obtain ⟨directory, arrived⟩ := walk_cons_ok.mp second
    rw [walk, Except.ok.injEq] at arrived
    exact ⟨middle, first, directory, arrived.symm⟩
  · rintro ⟨middle, first, directory, rfl⟩
    exact ⟨middle, first, walk_cons_ok.mpr ⟨directory, rfl⟩⟩

/-- A walk is the same where all directories are kept. -/
theorem walk_mono (kept : ∀ place, tree.node? place = some .directory →
    other.node? place = some .directory) (reached : tree.walk location names = .ok last) :
    other.walk location names = .ok last := by
  induction names generalizing location with
  | nil => exact reached
  | cons name rest ih =>
    obtain ⟨directory, behind⟩ := walk_cons_ok.mp reached
    exact walk_cons_ok.mpr ⟨kept location directory, ih behind⟩

/-- A walk that never goes up ends as many names deeper as lead somewhere. -/
theorem walk_below (lower : ['.', '.'] ∉ names) (reached : tree.walk location names = .ok last) :
    last = location ++ activeNames names := by
  induction names generalizing location with
  | nil =>
    rw [walk, Except.ok.injEq] at reached
    simp [activeNames, reached]
  | cons name rest ih =>
    obtain ⟨-, behind⟩ := walk_cons_ok.mp reached
    have down := ih (fun inside => lower (List.mem_cons_of_mem _ inside)) behind
    by_cases idle : isIdle name = true
    · rw [step_of_isIdle idle] at down
      simpa [activeNames, idle] using down
    · have parts : name ≠ [] ∧ name ≠ ['.'] := by simpa [isIdle] using idle
      have below : name ≠ ['.', '.'] := fun same => lower (by simp [same])
      rw [down, step]
      simp [parts, below, activeNames, idle]

end Tree

namespace FilePath

/-- The names of a directory to which the names of a path below it are added. -/
def leadNames (directory : FilePath) : List Text :=
  if directory = [] then []
  else if directory.getLast? = some '/' then namesOf directory.dropLast
  else namesOf directory

/-- The names of a path below a directory. -/
theorem namesOf_join {directory path : FilePath} (relative : isAbsolute path = false) :
    namesOf (join directory path) = leadNames directory ++ namesOf path := by
  by_cases empty : directory = []
  · simp [join, leadNames, empty]
  · rcases List.eq_nil_or_concat directory with rfl | ⟨front, last, rfl⟩
    · exact absurd rfl empty
    · rw [List.concat_eq_append] at empty ⊢
      by_cases slash : last = '/'
      · subst slash
        have split := Text.splitOn_append_cons '/' front path
        simp [join, relative, leadNames, namesOf, split]
      · have split := Text.splitOn_append_cons '/' (front ++ [last]) path
        rw [List.append_assoc, List.singleton_append] at split
        simp [join, relative, leadNames, namesOf, slash, split]

/-- A path below a directory is absolute if the directory is. -/
theorem isAbsolute_join {directory path : FilePath} (relative : isAbsolute path = false) :
    isAbsolute (join directory path) = isAbsolute directory := by
  cases directory with
  | nil => simpa [join, isAbsolute] using relative
  | cons c rest =>
    simp only [join, relative, List.isEmpty_cons, Bool.or_self, Bool.false_eq_true, ↓reduceIte]
    split <;> simp [isAbsolute]

/-- A path below a directory starts where the directory does. -/
theorem origin_join {directory path : FilePath} (relative : isAbsolute path = false)
    (start : Location) : Tree.origin start (join directory path) = Tree.origin start directory := by
  rw [Tree.origin, Tree.origin, isAbsolute_join relative]

/-- A path below a directory is not empty if it has something to add. -/
theorem join_ne_nil {directory path : FilePath} (filled : path ≠ []) :
    join directory path ≠ [] := by
  unfold join
  split
  · exact filled
  · split <;> simp [filled]

end FilePath

namespace Tree

variable {tree : Tree} {start last : Location} {directory path : FilePath}

/-- A path that is not empty leads along its names. -/
theorem locate_eq (filled : path ≠ []) (tree : Tree) (start : Location) :
    tree.locate start path = tree.walk (origin start path) (namesOf path) := by
  have some : path.isEmpty = false := by simpa using filled
  simp [locate, some, namesOf]

/-- A path below a directory leads along the names of both. -/
theorem locate_join_ok (relative : FilePath.isAbsolute path = false) (filled : path ≠ []) :
    tree.locate start (FilePath.join directory path) = .ok last ↔
      ∃ root, tree.walk (origin start directory) (FilePath.leadNames directory) = .ok root ∧
        tree.walk root (namesOf path) = .ok last := by
  rw [locate_eq (FilePath.join_ne_nil filled), FilePath.namesOf_join relative,
    FilePath.origin_join relative, walk_append_ok]

/-- A path leads to the same place where all directories are kept. -/
theorem locate_mono {other : Tree} (kept : ∀ place, tree.node? place = some .directory →
    other.node? place = some .directory) (reached : tree.locate start path = .ok last) :
    other.locate start path = .ok last := by
  by_cases filled : path = []
  · subst filled
    simp [locate] at reached
  · rw [locate_eq filled] at reached ⊢
    exact walk_mono kept reached

end Tree

end Scaffold
