import Scaffold.Proofs.Project.Walk
import Scaffold.Proofs.Text.Atom
import Scaffold.Project.Install

/-!
# How paths end

A path that ends with the name of an entry is a text of names with slashes behind them, and that
name (`eq_of_namesOf`). Its file name is that name, its directory has the other names
(`activeNames_parent?`), and its copy has `.bak` behind it (`backupPath_eq`).
-/
namespace Scaffold

namespace FilePath

/-- Names with a slash behind each of them. -/
def lead (front : List Text) : Text := front.flatMap (· ++ ['/'])

/-- Names with slashes between them and one more behind. -/
theorem joinWith_concat (front : List Text) (name : Text) :
    Text.joinWith ['/'] (front ++ [name]) = lead front ++ name := by
  induction front with
  | nil => rfl
  | cons first rest ih =>
    have joined : Text.joinWith ['/'] (first :: (rest ++ [name])) =
        first ++ ['/'] ++ Text.joinWith ['/'] (rest ++ [name]) := by
      cases rest <;> rfl
    rw [List.cons_append, joined, ih]
    simp [lead]

/-- A path is what its names say. -/
theorem eq_of_namesOf {path : FilePath} {front : List Text} {name : Text}
    (split : namesOf path = front ++ [name]) : path = lead front ++ name := by
  rw [← joinWith_concat, ← split]
  exact (Text.joinWith_splitOn '/' path).symm

/-- The names before the last of a path hold no slash. -/
theorem slash_notMem {path : FilePath} {front : List Text} {name : Text}
    (split : namesOf path = front ++ [name]) : ∀ other ∈ front, '/' ∉ other := by
  intro other member
  have inside : other ∈ namesOf path := by rw [split]; exact List.mem_append_left _ member
  exact Text.notMem_of_mem_splitOn inside

/-- The names of names with slashes behind them, and an empty one. -/
theorem namesOf_lead {front : List Text} (single : ∀ other ∈ front, '/' ∉ other) :
    namesOf (lead front) = front ++ [[]] := by
  have joined := joinWith_concat front []
  rw [List.append_nil] at joined
  rw [← joined]
  refine Text.splitOn_joinWith_of_notMem (by simp) fun other member => ?_
  rcases List.mem_append.mp member with early | last
  · exact single other early
  · rw [List.mem_singleton.mp last]
    simp

/-- The last component of a path that ends with a name. -/
theorem getLast?_components {path : FilePath} {front : List Text} {name : Text}
    (split : namesOf path = front ++ [name]) (isName : IsName name) :
    (components path).getLast? = some (.name name) := by
  have names : Text.splitOn '/' path = front ++ [name] := split
  simp [components, names, isName.component?_eq]

/-- The file name of a path that ends with a name. -/
theorem fileName?_of_split {path : FilePath} {front : List Text} {name : Text}
    (split : namesOf path = front ++ [name]) (isName : IsName name) :
    fileName? path = some name := by
  simp [fileName?, getLast?_components split isName]

/-- Nothing idle is dropped where a name stands at the end. -/
theorem withoutIdleEnd_of_split {path : FilePath} {front : List Text} {name : Text}
    (split : namesOf path = front ++ [name]) (isName : IsName name) :
    withoutIdleEnd path = path := by
  have filled : name.reverse ≠ [] := by simpa using isName.ne_nil
  obtain ⟨c, more, reversed⟩ := List.exists_cons_of_ne_nil filled
  have spelled : path.reverse = c :: (more ++ (lead front).reverse) := by
    rw [eq_of_namesOf split, List.reverse_append, reversed, List.cons_append]
  have noSlash : '/' ∉ c :: more := by
    rw [← reversed, List.mem_reverse]
    exact isName.single
  have kept : dropIdle path.reverse = path.reverse := by
    rw [spelled]
    unfold dropIdle
    split
    · rename_i rest same
      have slash : c = '/' := (List.cons.inj same).1
      exact absurd (by simp [slash]) noSlash
    · rename_i rest same
      obtain ⟨point, behind⟩ := List.cons.inj same
      cases more with
      | nil =>
        have single : name = ['.'] := by
          rw [← List.reverse_reverse name, reversed, point]
          rfl
        exact absurd single isName.ne_point
      | cons d others =>
        have slash : d = '/' := (List.cons.inj behind).1
        exact absurd (by simp [slash]) noSlash
    · rfl
  have some : path ≠ [] := by
    rintro rfl
    simp at spelled
  rw [withoutIdleEnd, kept, List.reverse_reverse]
  cases path with
  | nil => exact absurd rfl some
  | cons d rest => rfl

/-- Dropping what is idle at the end of a path keeps the names that lead somewhere. -/
theorem activeNames_dropIdle (reversed : Text) :
    activeNames (namesOf (dropIdle reversed).reverse) = activeNames (namesOf reversed.reverse) := by
  fun_induction dropIdle reversed with
  | case1 rest ih =>
    have split : namesOf ('/' :: rest).reverse = namesOf rest.reverse ++ [[]] := by
      rw [List.reverse_cons]
      exact Text.splitOn_append_cons '/' rest.reverse []
    have idle : isIdle [] = true := by decide
    rw [ih, split]
    simp [activeNames, idle]
  | case2 rest ih =>
    have split : namesOf ('.' :: '/' :: rest).reverse = namesOf rest.reverse ++ [['.']] := by
      rw [List.reverse_cons, List.reverse_cons, List.append_assoc]
      exact Text.splitOn_append_cons '/' rest.reverse ['.']
    have idle : isIdle ['.'] = true := by decide
    rw [ih, split]
    simp [activeNames, idle]
  | case3 => rfl

/-- What dropping leaves is the end of a reversed path. -/
theorem dropIdle_suffix_self (reversed : Text) : dropIdle reversed <:+ reversed := by
  fun_induction dropIdle reversed with
  | case1 rest ih => exact ih.trans (List.suffix_cons '/' rest)
  | case2 rest ih => exact ih.trans ((List.suffix_cons '/' rest).trans (List.suffix_cons '.' _))
  | case3 => exact List.suffix_rfl

/-- Without its idle end, a path has the same names that lead somewhere. -/
theorem activeNames_withoutIdleEnd (path : FilePath) :
    activeNames (namesOf (withoutIdleEnd path)) = activeNames (namesOf path) := by
  have same := activeNames_dropIdle path.reverse
  rw [List.reverse_reverse] at same
  rw [← same, withoutIdleEnd]
  split
  · rename_i none
    rw [none]
    split <;> decide
  · rfl

/-- Without its idle end, a path starts where it did. -/
theorem isAbsolute_withoutIdleEnd (path : FilePath) :
    isAbsolute (withoutIdleEnd path) = isAbsolute path := by
  have kept : (dropIdle path.reverse).reverse <+: path := by
    rw [← List.reverse_suffix, List.reverse_reverse]
    exact dropIdle_suffix_self path.reverse
  rw [withoutIdleEnd]
  split
  · split
    · rename_i absolute
      rw [absolute]
      rfl
    · rename_i relative
      rw [eq_false_of_ne_true relative]
      rfl
  · rename_i some
    obtain ⟨c, rest, spelled⟩ := List.exists_cons_of_ne_nil some
    obtain ⟨more, whole⟩ := kept
    have front : path.head? = (dropIdle path.reverse).reverse.head? := by
      conv => lhs; rw [← whole, spelled]
      rw [spelled]
      rfl
    rw [isAbsolute, isAbsolute, front]

/-- The directory of a path that ends with a name. -/
theorem parent?_of_split {path : FilePath} {front : List Text} {name : Text}
    (split : namesOf path = front ++ [name]) (isName : IsName name) :
    parent? path = some (withoutIdleEnd (lead front)) := by
  have slashless : ∀ c ∈ name.reverse, (c != '/') = true := by
    intro c inside
    have other : c ≠ '/' := fun same => isName.single (by rw [← same]; exact List.mem_reverse.mp inside)
    simpa using other
  have stops : (lead front).reverse.dropWhile (· != '/') = (lead front).reverse := by
    rcases List.eq_nil_or_concat front with rfl | ⟨early, last, rfl⟩
    · rfl
    · simp [lead, List.concat_eq_append]
  have cut : (path.reverse.dropWhile (· != '/')).reverse = lead front := by
    rw [eq_of_namesOf split, List.reverse_append, List.dropWhile_append_of_pos slashless, stops,
      List.reverse_reverse]
  simp [parent?, getLast?_components split isName, withoutIdleEnd_of_split split isName, cut]

/-- The directory of a path has all its names that lead somewhere but the last. -/
theorem activeNames_parent? {path : FilePath} {front : List Text} {name : Text}
    (split : namesOf path = front ++ [name]) (isName : IsName name) :
    activeNames (namesOf ((parent? path).getD [])) = activeNames front := by
  have idle : isIdle [] = true := by decide
  rw [parent?_of_split split isName, Option.getD_some, activeNames_withoutIdleEnd,
    namesOf_lead (slash_notMem split)]
  simp [activeNames, idle]

/-- The directory of a path starts where the path does. -/
theorem isAbsolute_parent? {path : FilePath} {front : List Text} {name : Text}
    (split : namesOf path = front ++ [name]) (isName : IsName name) :
    isAbsolute ((parent? path).getD []) = isAbsolute path := by
  rw [parent?_of_split split isName, Option.getD_some, isAbsolute_withoutIdleEnd,
    eq_of_namesOf split]
  cases front with
  | nil =>
    have relative := isName.isAbsolute_eq
    simpa [lead, isAbsolute] using relative.symm
  | cons first rest =>
    cases first with
    | nil => rfl
    | cons c more => rfl

/-- A name is made of its part before the last point and the part behind it. -/
theorem splitName_eq {name : Text} (isName : IsName name) :
    match (splitName name).2 with
    | some extension => name = (splitName name).1 ++ '.' :: extension
    | none => (splitName name).1 = name := by
  rw [splitName, if_neg isName.lower]
  cases cut : Text.splitLast? '.' name with
  | none => rfl
  | some sides =>
    obtain ⟨before, after⟩ := sides
    cases before with
    | nil => rfl
    | cons c rest => exact Text.eq_of_splitLast? cut

end FilePath

namespace Project

/-- The copy of a file has an ending more. -/
theorem backupPath_eq {path : FilePath} {front : List Text} {name : Text}
    (split : namesOf path = front ++ [name]) (isName : IsName name) :
    backupPath path = path ++ ".bak" := by
  have named := FilePath.fileName?_of_split split isName
  have whole := FilePath.withoutIdleEnd_of_split split isName
  have before : path.take (path.length - name.length) = FilePath.lead front := by
    conv => lhs; rw [FilePath.eq_of_namesOf split]
    simp
  have parts := FilePath.splitName_eq isName
  have ending : ("bak" : Text) = ['b', 'a', 'k'] ∧ (".bak" : Text) = ['.', 'b', 'a', 'k'] := by
    decide
  unfold backupPath FilePath.withExtension
  simp only [FilePath.extension?, named, Option.bind_some, whole, before]
  cases extension : (FilePath.splitName name).2 with
  | none =>
    simp only [extension] at parts
    rw [parts, ← FilePath.eq_of_namesOf split, ending.1, ending.2]
  | some extension' =>
    simp only [extension] at parts
    conv => rhs; rw [FilePath.eq_of_namesOf split, parts]
    rw [ending.2]
    simp

/-- The copy of a file lies beside it. -/
theorem namesOf_backupPath {path : FilePath} {front : List Text} {name : Text}
    (split : namesOf path = front ++ [name]) (isName : IsName name) :
    namesOf (backupPath path) = front ++ [name ++ ".bak"] := by
  have slashless : '/' ∉ (".bak" : Text) := by decide
  rw [backupPath_eq split isName, FilePath.eq_of_namesOf split, List.append_assoc,
    ← FilePath.joinWith_concat]
  refine Text.splitOn_joinWith_of_notMem (by simp) fun other member => ?_
  rcases List.mem_append.mp member with early | last
  · exact FilePath.slash_notMem split other early
  · rw [List.mem_singleton.mp last]
    exact fun inside => (List.mem_append.mp inside).elim isName.single slashless

end Project

end Scaffold
