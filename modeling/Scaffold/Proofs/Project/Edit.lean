import Scaffold.Proofs.Project.Ending

/-!
# Edits of a file tree

What is at every place after an entry was put or taken away, directories were made, a file was
written or its content replaced. A tree is well formed if every entry has a name and lies in a
directory, and the edits keep it so. All facts are about `Tree.node?`, so the order in which a tree
lists its entries does not matter.
-/
namespace Scaffold

namespace Tree

variable {tree other : Tree} {start location : Location}

/-- What is at a place after an entry was put. -/
theorem node?_put (tree : Tree) (location place : Location) (node : Node) :
    (tree.put location node).node? place =
      if place = [] then some .directory
      else if place = location then some node else tree.node? place := by
  by_cases root : place = []
  · simp [node?, root]
  · have filled : place.isEmpty = false := by simpa using root
    by_cases here : place = location
    · subst here
      have gone : (tree.nodes.filter (·.1 != place)).find? (·.1 == place) = none := by
        rw [List.find?_eq_none]
        intro entry member same
        have other := (List.mem_filter.mp member).2
        simp_all
      simp [node?, put, filled, root, List.find?_append, gone]
    · have kept : (tree.nodes.filter (·.1 != location)).find? (·.1 == place) =
          tree.nodes.find? (·.1 == place) := by
        rw [List.find?_filter]
        congr 1
        funext entry
        by_cases same : entry.1 = place
        · simp [same, here]
        · simp [same]
      have last : ((location, node).1 == place) = false := by simpa using Ne.symm here
      simp [node?, put, root, here, List.find?_append, kept, last]

/-- What is at a place after an entry was taken away. -/
theorem node?_erase (tree : Tree) (location place : Location) :
    (tree.erase location).node? place =
      if place = [] then some .directory
      else if place = location then none else tree.node? place := by
  by_cases root : place = []
  · simp [node?, root]
  · by_cases here : place = location
    · subst here
      have gone : (tree.nodes.filter (·.1 != place)).find? (·.1 == place) = none := by
        rw [List.find?_eq_none]
        intro entry member same
        have other := (List.mem_filter.mp member).2
        simp_all
      simp [node?, erase, root, gone]
    · have kept : (tree.nodes.filter (·.1 != location)).find? (·.1 == place) =
          tree.nodes.find? (·.1 == place) := by
        rw [List.find?_filter]
        congr 1
        funext entry
        by_cases same : entry.1 = place
        · simp [same, here]
        · simp [same]
      simp [node?, erase, root, here, kept]

/-- The root is a directory. -/
theorem node?_nil (tree : Tree) : tree.node? [] = some .directory := rfl

/-- The entries of a directory are those one name below it. -/
theorem mem_children {name : Text} : name ∈ tree.children location ↔
    (tree.node? (location ++ [name])).isSome = true := by
  have filled : (location ++ [name]).isEmpty = false := by simp
  rw [node?, filled, if_neg Bool.false_ne_true, Option.isSome_map, List.find?_isSome]
  simp only [children, List.mem_filterMap, beq_iff_eq]
  constructor
  · rintro ⟨⟨place, node⟩, member, found⟩
    refine ⟨(place, node), member, ?_⟩
    rcases List.eq_nil_or_concat place with rfl | ⟨front, last, rfl⟩
    · simp at found
    · simp only [List.concat_eq_append, List.getLast?_concat, List.dropLast_concat,
        Option.ite_none_right_eq_some, Option.some.injEq] at found
      obtain ⟨rfl, rfl⟩ := found
      simp
  · rintro ⟨⟨place, node⟩, member, same⟩
    simp only at same
    subst same
    exact ⟨_, member, by simp⟩

/-- Every entry has a name and lies in a directory. -/
def WellFormed (tree : Tree) : Prop :=
  ∀ (parent : Location) (name : Text), tree.node? (parent ++ [name]) ≠ none →
    IsName name ∧ tree.node? parent = some .directory

/-- The entries of a tree tell whether it is well formed. -/
theorem wellFormed_iff : tree.WellFormed ↔ ∀ entry ∈ tree.nodes, entry.1 = [] ∨
    IsName (entry.1.getLast?.getD []) ∧ tree.node? entry.1.dropLast = some .directory := by
  constructor
  · intro wellFormed entry member
    rcases List.eq_nil_or_concat entry.1 with none | ⟨parent, name, split⟩
    · exact .inl none
    · rw [List.concat_eq_append] at split
      have child : name ∈ tree.children parent := by
        refine List.mem_filterMap.mpr ⟨entry, member, ?_⟩
        simp [split]
      have both := wellFormed parent name (Option.isSome_iff_ne_none.mp (mem_children.mp child))
      exact .inr (by simpa [split] using both)
  · intro listed parent name there
    have child := mem_children.mpr (Option.isSome_iff_ne_none.mpr there)
    obtain ⟨⟨place, node⟩, member, found⟩ := List.mem_filterMap.mp child
    rcases List.eq_nil_or_concat place with rfl | ⟨front, last, rfl⟩
    · simp at found
    · rw [List.concat_eq_append] at member found
      simp only [List.getLast?_concat, List.dropLast_concat, Option.ite_none_right_eq_some,
        Option.some.injEq] at found
      obtain ⟨rfl, rfl⟩ := found
      simpa using listed _ member

instance (tree : Tree) : Decidable tree.WellFormed := decidable_of_iff _ wellFormed_iff.symm

/-- What lies below a place that is there lies in a directory. -/
theorem WellFormed.directory_of_below (wellFormed : tree.WellFormed) {below : List Text}
    (some : below ≠ []) (there : tree.node? (location ++ below) ≠ none) :
    tree.node? location = Option.some .directory := by
  induction below generalizing location with
  | nil => exact absurd rfl some
  | cons name rest ih =>
    by_cases last : rest = []
    · rw [last] at there
      exact (wellFormed _ _ there).2
    · have split : location ++ name :: rest = location ++ [name] ++ rest := by simp
      rw [split] at there
      have directory := ih last there
      exact (wellFormed location name (by rw [directory]; simp)).2

/-- The directory above one that is there is one. -/
theorem WellFormed.directory_dropLast (wellFormed : tree.WellFormed)
    (directory : tree.node? location = some .directory) :
    tree.node? location.dropLast = some .directory := by
  rcases List.eq_nil_or_concat location with rfl | ⟨front, last, rfl⟩
  · exact directory
  · rw [List.concat_eq_append] at directory ⊢
    rw [List.dropLast_concat]
    exact (wellFormed front last (by rw [directory]; simp)).2

/-- An entry with a name in a directory keeps a tree well formed, unless it takes the place of a
directory. -/
theorem WellFormed.put (wellFormed : tree.WellFormed) {name : Text} (isName : IsName name)
    (directory : tree.node? location = some .directory) {node : Node}
    (free : node = .directory ∨ tree.node? (location ++ [name]) ≠ some .directory) :
    (tree.put (location ++ [name]) node).WellFormed := by
  have kept : ∀ place, tree.node? place = some .directory →
      (tree.put (location ++ [name]) node).node? place = some .directory := by
    intro place there
    rw [node?_put]
    split
    · rfl
    · split
      · rename_i same
        rcases free with rfl | noDirectory
        · rfl
        · exact absurd (same ▸ there) noDirectory
      · exact there
  intro parent own there
  rw [node?_put, if_neg (by simp)] at there
  split at there
  · rename_i same
    obtain ⟨rfl, rfl⟩ : parent = location ∧ own = name := by simpa using same
    exact ⟨isName, kept parent directory⟩
  · obtain ⟨named, inside⟩ := wellFormed parent own there
    exact ⟨named, kept parent inside⟩

/-- Taking away an entry that is no directory keeps a tree well formed. -/
theorem WellFormed.erase (wellFormed : tree.WellFormed)
    (noDirectory : tree.node? location ≠ some .directory) : (tree.erase location).WellFormed := by
  intro parent own there
  rw [node?_erase, if_neg (by simp)] at there
  split at there
  · exact absurd rfl there
  · obtain ⟨named, inside⟩ := wellFormed parent own there
    refine ⟨named, ?_⟩
    have other : parent ≠ location := by
      rintro rfl
      exact noDirectory inside
    rw [node?_erase, if_neg other, inside]
    split <;> rfl

/-- Nothing is in a second tree but what is in the first one, and further directories. -/
def GrowsTo (tree other : Tree) : Prop :=
  ∀ place, other.node? place = tree.node? place ∨
    tree.node? place = none ∧ other.node? place = some .directory

/-- What is there stays. -/
theorem GrowsTo.node?_eq (grows : tree.GrowsTo other) {node : Node}
    (there : tree.node? location = some node) : other.node? location = some node := by
  rcases grows location with same | ⟨none, -⟩
  · rw [same, there]
  · rw [none] at there
    exact absurd there (by simp)

/-- Growing is transitive. -/
theorem GrowsTo.trans {last : Tree} (first : tree.GrowsTo other) (second : other.GrowsTo last) :
    tree.GrowsTo last := by
  intro place
  rcases second place with same | ⟨none, directory⟩
  · rw [same]
    exact first place
  · rcases first place with before | ⟨-, there⟩
    · exact .inr ⟨by rw [← before, none], directory⟩
    · rw [none] at there
      exact absurd there (by simp)

/-- A tree grows to itself. -/
theorem GrowsTo.refl (tree : Tree) : tree.GrowsTo tree := fun _ => .inl rfl

/-- Making directories keeps a tree well formed and adds nothing but directories, whether or not it
goes well. -/
theorem makeAlong_spec {names : List Text} : ∀ {tree last : Tree} {location : Location}
    {made : Bool} {fault : Option FileFault}, tree.WellFormed →
    tree.node? location = some .directory → (∀ name ∈ names, isIdle name = false ∧ '/' ∉ name) →
    tree.makeAlong location made names = (last, fault) → last.WellFormed ∧ tree.GrowsTo last := by
  induction names with
  | nil =>
    intro tree last location made fault wellFormed _ _ done
    obtain ⟨rfl, -⟩ := Prod.mk.inj done
    exact ⟨wellFormed, .refl tree⟩
  | cons name rest ih =>
    intro tree last location made fault wellFormed directory active done
    obtain ⟨here, single⟩ := active name List.mem_cons_self
    have later := fun other member => active other (List.mem_cons_of_mem name member)
    rw [makeAlong] at done
    cases node : tree.node? (step location name) with
    | some found =>
      cases found with
      | directory =>
        simp only [node] at done
        exact ih wellFormed node later done
      | file content =>
        simp only [node] at done
        obtain ⟨rfl, -⟩ := Prod.mk.inj done
        exact ⟨wellFormed, .refl tree⟩
    | none =>
      simp only [node] at done
      have lower : name ≠ ['.', '.'] := by
        rintro rfl
        have above := wellFormed.directory_dropLast directory
        have up : step location ['.', '.'] = location.dropLast := by simp [step]
        rw [up, above] at node
        exact absurd node (by simp)
      have isName : IsName name := ⟨here, lower, single⟩
      rw [isName.step_eq] at node done
      have grown : (tree.put (location ++ [name]) .directory).WellFormed :=
        wellFormed.put isName directory (.inl rfl)
      have there : (tree.put (location ++ [name]) .directory).node? (location ++ [name]) =
          some .directory := by
        simp [node?_put]
      obtain ⟨whole, more⟩ := ih grown there later done
      refine ⟨whole, GrowsTo.trans (fun place => ?_) more⟩
      rw [node?_put]
      split
      · rename_i root
        rw [root, node?_nil]
        exact .inl rfl
      · split
        · rename_i same
          rw [same]
          exact .inr ⟨node, rfl⟩
        · exact .inl rfl

/-- Writing a file puts it where its path leads, unless there is a directory. -/
theorem write_ok {path : FilePath} {content : FileContent} :
    tree.write start path content = .ok other ↔
      ∃ location, tree.locate start path = .ok location ∧
        tree.node? location ≠ some .directory ∧ other = tree.put location (.file content) := by
  unfold write
  cases found : tree.locate start path with
  | error fault => simp [bind, Except.bind]
  | ok location =>
    by_cases directory : tree.node? location = some .directory
    · have refused : tree.isDirectoryAt location = true := by simp [isDirectoryAt, directory]
      show (if tree.isDirectoryAt location = true then Except.error FileFault.isDirectory
        else Except.ok (tree.put location (.file content))) = .ok other ↔ _
      rw [if_pos refused]
      simp [directory]
    · have free : ¬tree.isDirectoryAt location = true := by simpa [isDirectoryAt] using directory
      show (if tree.isDirectoryAt location = true then Except.error FileFault.isDirectory
        else Except.ok (tree.put location (.file content))) = .ok other ↔ _
      rw [if_neg free]
      constructor
      · rintro ⟨⟩
        exact ⟨location, rfl, directory, rfl⟩
      · rintro ⟨_, ⟨⟩, -, rfl⟩
        rfl

/-- Reading gives the content of the file that a path leads to. -/
theorem read_ok {path : FilePath} {content : FileContent} :
    tree.read start path = .ok content ↔
      ∃ location, tree.locate start path = .ok location ∧
        tree.node? location = some (.file content) := by
  unfold read
  cases found : tree.locate start path with
  | error fault => simp [bind, Except.bind]
  | ok location =>
    cases node : tree.node? location with
    | none => simp [bind, Except.bind, node, throw, throwThe, MonadExceptOf.throw]
    | some entry =>
      cases entry <;>
        simp [bind, Except.bind, node, throw, throwThe, MonadExceptOf.throw, pure, Except.pure]

/-- Reading a text gives the text of the file that a path leads to. -/
theorem readText_ok {path : FilePath} {text : Text} :
    tree.readText start path = .ok text ↔
      ∃ location, tree.locate start path = .ok location ∧
        tree.node? location = some (.file (.text text)) := by
  unfold readText
  rw [← read_ok]
  cases found : tree.read start path with
  | error fault => simp [bind, Except.bind]
  | ok content =>
    cases content with
    | text other =>
      show Except.ok other = Except.ok text ↔
        Except.ok (FileContent.text other) = Except.ok (FileContent.text text)
      constructor <;> (rintro ⟨⟩; rfl)
    | bytes raw =>
      show Except.error FileFault.noText = Except.ok text ↔
        Except.ok (FileContent.bytes raw) = Except.ok (FileContent.text text)
      constructor <;> rintro ⟨⟩

/-- A path leads to a file where one is. -/
theorem isFile_iff {path : FilePath} : tree.isFile start path = true ↔
    ∃ location content, tree.locate start path = .ok location ∧
      tree.node? location = some (.file content) := by
  unfold isFile lookup?
  cases found : tree.locate start path with
  | error fault => simp [Except.toOption]
  | ok location =>
    cases node : tree.node? location with
    | none => simp [Except.toOption, node]
    | some entry => cases entry <;> simp [Except.toOption, node]

/-- A path leads to a directory where one is. -/
theorem isDirectory_iff {path : FilePath} : tree.isDirectory start path = true ↔
    ∃ location, tree.locate start path = .ok location ∧
      tree.node? location = some .directory := by
  unfold isDirectory lookup?
  cases found : tree.locate start path with
  | error fault => simp [Except.toOption]
  | ok location => simp [Except.toOption]

/-- A path leads to something where something is. -/
theorem occupied_iff {path : FilePath} : tree.occupied start path = true ↔
    ∃ location, tree.locate start path = .ok location ∧ tree.node? location ≠ none := by
  unfold occupied lookup?
  cases found : tree.locate start path with
  | error fault => simp [Except.toOption]
  | ok location => simp [Except.toOption, Option.isSome_iff_ne_none]

/-- Removing a file takes it away from where its path leads. -/
theorem remove_ok {path : FilePath} : tree.remove start path = .ok other ↔
    ∃ location content, tree.locate start path = .ok location ∧
      tree.node? location = some (.file content) ∧ other = tree.erase location := by
  unfold remove
  cases found : tree.locate start path with
  | error fault => simp [bind, Except.bind]
  | ok location =>
    cases node : tree.node? location with
    | none => simp [bind, Except.bind, node, throw, throwThe, MonadExceptOf.throw]
    | some entry =>
      cases entry <;>
        simp [bind, Except.bind, node, throw, throwThe, MonadExceptOf.throw, pure, Except.pure,
          eq_comm]

end Tree

end Scaffold
