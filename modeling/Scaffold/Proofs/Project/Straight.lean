import Scaffold.Proofs.Names
import Scaffold.Proofs.Project.Sharing

/-!
# Straight paths

A straight path leads down name by name, without a detour. Two of them lead to one place below a
root only if the same names of them lead somewhere (`Straight.names_of_locate`), and exactly then
they are the same path (`Straight.same_iff`).
-/
namespace Scaffold

/-- A text without slashes that does not end with a point is the name of an entry. -/
theorem isName_of_getLast? {text : Text} {c : Char} (single : '/' ∉ text)
    (last : text.getLast? = some c) (other : c ≠ '.') : IsName text := by
  refine ⟨?_, ?_, single⟩
  · rw [Bool.eq_false_iff]
    intro idle
    rcases (by simpa [isIdle] using idle : text = [] ∨ text = ['.']) with rfl | rfl
    · simp at last
    · exact other (by simpa using last.symm)
  · rintro rfl
    exact other (by simpa using last.symm)

/-- An ending of file names: it holds no slash and does not end with a point. -/
def isEnding (ending : Text) : Bool := !ending.contains '/' && ending.getLast?.any (· != '.')

/-- A text in front of an ending is the name of an entry. -/
theorem isName_append {text ending : Text} (single : '/' ∉ text) (fine : isEnding ending = true) :
    IsName (text ++ ending) := by
  simp only [isEnding, Bool.and_eq_true, Bool.not_eq_true', List.contains_eq_mem,
    decide_eq_false_iff_not, Option.any_eq_true, bne_iff_ne, ne_eq] at fine
  obtain ⟨slashless, c, last, other⟩ := fine
  refine isName_of_getLast? (fun inside => ?_) (c := c) ?_ other
  · exact (List.mem_append.mp inside).elim single slashless
  · rw [List.getLast?_append, last, Option.some_or]

/-- An ending is the name of an entry. -/
theorem isName_of_isEnding {ending : Text} (fine : isEnding ending = true) : IsName ending := by
  have named := @isName_append [] ending (by simp) fine
  exact named

/-- The names that lead somewhere along one list and then another. -/
theorem activeNames_append (names more : List Text) :
    activeNames (names ++ more) = activeNames names ++ activeNames more :=
  List.filter_append names more

/-- The name of an entry leads somewhere. -/
theorem IsName.activeNames_eq {name : Text} (isName : IsName name) :
    activeNames (namesOf name) = [name] := by
  rw [isName.namesOf_eq]
  simp [activeNames, isName.active]

namespace FilePath

/-- The names in front of a path below a directory lead where the directory does. -/
theorem activeNames_leadNames (directory : FilePath) :
    activeNames (leadNames directory) = activeNames (namesOf directory) := by
  have idle : isIdle [] = true := by decide
  unfold leadNames
  split
  · rename_i empty
    simp [empty, namesOf, activeNames, Text.splitOn, Text.splitWhere, idle]
  · split
    · rename_i slash
      obtain ⟨front, rfl⟩ := List.getLast?_eq_some_iff.mp slash
      have split : namesOf (front ++ ['/']) = namesOf front ++ [[]] :=
        Text.splitOn_append_cons '/' front []
      rw [split, List.dropLast_concat]
      simp [activeNames, idle]
    · rfl

/-- The names of a path below a directory that lead somewhere are those of both. -/
theorem activeNames_join {directory path : FilePath} (relative : isAbsolute path = false) :
    activeNames (namesOf (join directory path)) =
      activeNames (namesOf directory) ++ activeNames (namesOf path) := by
  rw [namesOf_join relative, activeNames_append, activeNames_leadNames]

/-- A relative path that never goes up and does not start with a point. -/
structure Straight (path : FilePath) : Prop where
  /-- It does not begin at the root of the file system. -/
  relative : isAbsolute path = false
  /-- It never goes up. -/
  lower : ['.', '.'] ∉ namesOf path
  /-- It does not start with a point. -/
  named : (namesOf path).head? ≠ some ['.']

/-- Whether a path is straight can be computed. -/
instance decidableStraight (path : FilePath) : Decidable (Straight path) :=
  decidable_of_iff (isAbsolute path = false ∧ ['.', '.'] ∉ namesOf path ∧
      (namesOf path).head? ≠ some ['.'])
    ⟨fun ⟨relative, lower, named⟩ => ⟨relative, lower, named⟩,
      fun straight => ⟨straight.relative, straight.lower, straight.named⟩⟩

/-- The name of an entry is a straight path. -/
theorem Straight.of_isName {name : Text} (isName : IsName name) : Straight name := by
  refine ⟨isName.isAbsolute_eq, ?_, ?_⟩ <;> rw [isName.namesOf_eq]
  · simpa using Ne.symm isName.lower
  · simpa using isName.ne_point

/-- A plain text is a straight path. -/
theorem Straight.of_isPlain {text : Text} (plain : Text.IsPlain text) : Straight text := by
  have slash : '/' ∉ text := plain.notMem (by decide)
  have point : '.' ∉ text := plain.notMem (by decide)
  have names : namesOf text = [text] := Text.splitOn_of_notMem slash
  refine ⟨?_, ?_, ?_⟩
  · cases text with
    | nil => rfl
    | cons c rest =>
      have other : c ≠ '/' := fun same => slash (by simp [same])
      simpa [isAbsolute] using other
  · rw [names, List.mem_singleton]
    rintro rfl
    exact point (by simp)
  · rw [names, List.head?_cons, ne_eq, Option.some.injEq]
    rintro rfl
    exact point (by simp)

namespace Straight

variable {directory path other : FilePath}

/-- The names in front of a path below a straight directory are straight. -/
theorem leadNames_subset (directory : FilePath) : leadNames directory ⊆ namesOf directory := by
  unfold leadNames
  split
  · exact List.nil_subset _
  · split
    · rename_i slash
      obtain ⟨front, rfl⟩ := List.getLast?_eq_some_iff.mp slash
      have split : namesOf (front ++ ['/']) = namesOf front ++ [[]] :=
        Text.splitOn_append_cons '/' front []
      rw [split, List.dropLast_concat]
      exact List.subset_append_left _ _
    · exact List.Subset.refl _

/-- A straight path below a straight directory is straight. -/
theorem join (first : Straight directory) (second : Straight path) :
    Straight (FilePath.join directory path) := by
  refine ⟨?_, ?_, ?_⟩
  · rw [isAbsolute_join second.relative, first.relative]
  · rw [namesOf_join second.relative, List.mem_append, not_or]
    exact ⟨fun inside => first.lower (leadNames_subset directory inside), second.lower⟩
  · rw [namesOf_join second.relative]
    cases lead : leadNames directory with
    | nil => exact second.named
    | cons name rest =>
      have head : (namesOf directory).head? = some name := by
        unfold leadNames at lead
        split at lead
        · simp at lead
        · split at lead
          · rename_i slash
            obtain ⟨front, rfl⟩ := List.getLast?_eq_some_iff.mp slash
            have split : namesOf (front ++ ['/']) = namesOf front ++ [[]] :=
              Text.splitOn_append_cons '/' front []
            rw [List.dropLast_concat] at lead
            rw [split, lead]
            rfl
          · rw [lead]
            rfl
      have named := first.named
      rw [head] at named
      exact named

/-- The components of a straight path are its names that lead somewhere. -/
theorem components_eq (straight : Straight path) :
    components path = (activeNames (namesOf path)).map .name := by
  have general : ∀ names : List Text, ['.', '.'] ∉ names →
      names.filterMap component? = (activeNames names).map Component.name := by
    intro names lower
    induction names with
    | nil => rfl
    | cons name rest ih =>
      have later := ih fun inside => lower (List.mem_cons_of_mem _ inside)
      have here : name ≠ ['.', '.'] := fun same => lower (by simp [same])
      by_cases idle : name = [] ∨ name = ['.']
      · have none : component? name = none := by simp [component?, idle]
        have rested : isIdle name = true := by simpa [isIdle] using idle
        rw [List.filterMap_cons, none]
        simpa [activeNames, rested] using later
      · have some : component? name = some (.name name) := by simp [component?, idle, here]
        have active : isIdle name = false := by simpa [isIdle] using idle
        rw [List.filterMap_cons, some]
        simpa [activeNames, active] using later
  have named : (Text.splitOn '/' path).head? ≠ some ['.'] := straight.named
  unfold components
  simp only [straight.relative, Bool.false_eq_true, ↓reduceIte, named, List.nil_append]
  exact general (namesOf path) straight.lower

/-- Two straight paths are the same if the same names of them lead somewhere. -/
theorem same_iff (first : Straight path) (second : Straight other) :
    same path other = true ↔ activeNames (namesOf path) = activeNames (namesOf other) := by
  rw [same, beq_iff_eq, first.components_eq, second.components_eq]
  constructor
  · exact fun same => (List.map_inj_right fun _ _ equal => by simpa using equal).mp same
  · exact fun same => by rw [same]

/-- Where a straight path leads below a root. -/
theorem location_eq (straight : Straight path) (filled : path ≠ []) {tree : Tree}
    {start location : Location} {root : FilePath}
    (reached : tree.locate start (FilePath.join root path) = .ok location) :
    ∃ base, tree.walk (Tree.origin start root) (leadNames root) = .ok base ∧
      location = base ++ activeNames (namesOf path) := by
  obtain ⟨base, walked, below⟩ :=
    (Tree.locate_join_ok straight.relative filled).mp reached
  exact ⟨base, walked, Tree.walk_below straight.lower below⟩

/-- Two straight paths below a root lead to one place only if the same names of them lead
somewhere. -/
theorem names_of_locate (first : Straight path) (second : Straight other) (filled : path ≠ [])
    (someOther : other ≠ []) {tree : Tree} {start location : Location} {root : FilePath}
    (reached : tree.locate start (FilePath.join root path) = .ok location)
    (again : tree.locate start (FilePath.join root other) = .ok location) :
    activeNames (namesOf path) = activeNames (namesOf other) := by
  obtain ⟨base, walked, rfl⟩ := first.location_eq filled reached
  obtain ⟨same, walkedAgain, equal⟩ := second.location_eq someOther again
  rw [walked, Except.ok.injEq] at walkedAgain
  rw [walkedAgain] at equal
  exact List.append_cancel_left equal

end Straight

/-- The names in front of a path below a directory that ends with a name are its own. -/
theorem leadNames_of_split {directory : FilePath} {front : List Text} {last : Text}
    (split : namesOf directory = front ++ [last]) (ends : IsName last) :
    leadNames directory = namesOf directory := by
  unfold leadNames
  split
  · rename_i empty
    subst empty
    have none : last = [] := by
      have same : ([[]] : List Text) = front ++ [last] := split
      rcases front with _ | ⟨first, rest⟩
      · simpa using same.symm
      · simp at same
    exact absurd none ends.ne_nil
  · split
    · rename_i slash
      obtain ⟨before, rfl⟩ := List.getLast?_eq_some_iff.mp slash
      have cut : namesOf (before ++ ['/']) = namesOf before ++ [[]] :=
        Text.splitOn_append_cons '/' before []
      rw [cut] at split
      have none : [] = last := (List.append_inj' split rfl).2 |> List.singleton_inj.mp
      exact absurd none.symm ends.ne_nil
    · rfl

/-- The directory of a named entry below a directory that ends with a name. -/
theorem parent?_join {directory : FilePath} {front : List Text} {last name : Text}
    (split : namesOf directory = front ++ [last]) (ends : IsName last) (isName : IsName name) :
    parent? (join directory name) = some directory := by
  have whole := withoutIdleEnd_of_split split ends
  have lead := leadNames_of_split split ends
  have names : namesOf (join directory name) = namesOf directory ++ [name] := by
    rw [namesOf_join isName.isAbsolute_eq, lead, isName.namesOf_eq]
  rw [parent?_of_split names isName]
  have slashed : FilePath.lead (namesOf directory) = directory ++ ['/'] := by
    rw [split]
    have joined := joinWith_concat front last
    rw [← split, show Text.joinWith ['/'] (namesOf directory) = directory from
      Text.joinWith_splitOn '/' directory] at joined
    simp only [FilePath.lead, List.flatMap_append] at joined ⊢
    rw [joined]
    simp
  have drop : dropIdle (directory ++ ['/']).reverse = dropIdle directory.reverse := by
    simp [dropIdle]
  rw [slashed]
  unfold withoutIdleEnd at whole ⊢
  rw [drop]
  cases kept : (dropIdle directory.reverse).reverse with
  | cons c rest =>
    rw [kept] at whole
    simp only at whole ⊢
    rw [whole]
  | nil =>
    rw [kept] at whole
    have ending : directory = ['/'] ∨ directory = [] := by
      simp only at whole
      split at whole
      · exact .inl whole.symm
      · exact .inr whole.symm
    have emptyLast : last = [] := by
      rcases ending with rfl | rfl
      · have same : ([[]] : List Text) ++ [[]] = front ++ [last] := split
        exact ((List.append_inj' same rfl).2 |> List.singleton_inj.mp).symm
      · have same : ([] : List Text) ++ [[]] = front ++ [last] := split
        exact ((List.append_inj' same rfl).2 |> List.singleton_inj.mp).symm
    exact absurd emptyLast ends.ne_nil

end FilePath

end Scaffold
