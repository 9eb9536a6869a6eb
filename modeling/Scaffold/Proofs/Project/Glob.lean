import Scaffold.Proofs.Project.Straight
import Scaffold.Proofs.Text.Least

/-!
# Searches with one star

What a pattern finds whose only wildcard is a star at the front of its last name: the entries of the
directory in front that end with the rest of that name (`expand_names`, `oneName_star`), and nothing
if there is no such directory. The first of them in the order of paths depends on the entries of the
directory only (`fileName?_least_find?`).
-/
namespace Scaffold.Glob

open FilePath

/-- A character that has a meaning of its own in a pattern. -/
def isWild (c : Char) : Bool := c == '*' || c == '?' || c == '['

/-- A text without wildcards. -/
def Tame (text : Text) : Prop := ∀ c ∈ text, isWild c = false

/-- A text without wildcards reads as its characters. -/
theorem readFrom_tame {text : Text} (tame : Tame text) (bound : Nat) (before : Option Char)
    (enough : text.length ≤ bound) : readFrom bound before text = some (text.map .char) := by
  induction text generalizing bound before with
  | nil => cases bound <;> rfl
  | cons c rest ih =>
    obtain ⟨more, rfl⟩ : ∃ more, bound = more + 1 := by
      exact ⟨bound - 1, by simp only [List.length_cons] at enough; omega⟩
    have here := tame c List.mem_cons_self
    simp only [isWild, Bool.or_eq_false_iff, beq_eq_false_iff_ne] at here
    have later := ih (fun d inside => tame d (List.mem_cons_of_mem c inside)) more (some c)
      (by simp only [List.length_cons] at enough; omega)
    unfold readFrom
    split
    · simp_all
    · simp_all
    · simp_all
    · simp_all
    · simp_all
    · rename_i same _ _ _
      simp_all

/-- A name without wildcards reads as its characters. -/
theorem read?_tame {text : Text} (tame : Tame text) : read? text = some (text.map .char) :=
  readFrom_tame tame text.length none (Nat.le_refl _)

/-- A star in front of a name without wildcards. -/
theorem read?_star {text : Text} (tame : Tame text) :
    read? ('*' :: text) = some (.anyChars :: text.map .char) := by
  have single : stars text = (0, text) := by
    cases text with
    | nil => rfl
    | cons c rest =>
      have other := tame c List.mem_cons_self
      simp only [isWild, Bool.or_eq_false_iff, beq_eq_false_iff_ne] at other
      simp [stars, other.1.1]
  have rest := readFrom_tame tame text.length (some '*') (Nat.le_refl _)
  rw [read?, List.length_cons, readFrom]
  simp [single, rest]

/-- Characters stand for the name that they spell. -/
theorem plain?_chars (text : Text) : plain? (text.map .char) = some text := by
  induction text with
  | nil => rfl
  | cons c rest ih => simp [plain?, ih]

/-- Characters match the name that they spell. -/
theorem matchesName_chars {text name : Text} :
    matchesName (text.map .char) name = true ↔ name = text := by
  induction text generalizing name with
  | nil => simp [matchesName]
  | cons c rest ih =>
    cases name with
    | nil => simp [matchesName]
    | cons d more => simp [matchesName, ih]

/-- The endings of a text. -/
theorem mem_endings {text ending : Text} : ending ∈ endings text ↔ ending <:+ text := by
  induction text with
  | nil => simp [endings]
  | cons c rest ih => rw [endings, List.mem_cons, ih, List.suffix_cons_iff]

/-- A star and characters match the names that end with what these spell. -/
theorem matchesName_star {text name : Text} :
    matchesName (.anyChars :: text.map .char) name = true ↔ text <:+ name := by
  rw [matchesName, List.any_eq_true]
  constructor
  · rintro ⟨ending, member, same⟩
    rw [← matchesName_chars.mp same]
    exact mem_endings.mp member
  · intro ending
    exact ⟨text, mem_endings.mpr ending, matchesName_chars.mpr rfl⟩

/-- A path on a search: it is not empty, and either the point for the directory that the search
starts from or none that is the same as it. -/
def Entered (path : FilePath) : Prop :=
  path ≠ [] ∧ (path = hereDirectory ∨ same path hereDirectory = false)

/-- What makes a path the same as a point. -/
theorem same_here_iff {path : FilePath} : same path hereDirectory = true ↔
    isAbsolute path = false ∧ (namesOf path).head? = some ['.'] ∧
      (namesOf path).filterMap component? = [] := by
  have here : components hereDirectory = [.here] := by decide
  have noHere : Component.here ∉ (namesOf path).filterMap component? := by
    intro inside
    obtain ⟨name, -, found⟩ := List.mem_filterMap.mp inside
    unfold component? at found
    split at found
    · simp at found
    · split at found <;> simp at found
  rw [same, beq_iff_eq, here]
  show ((if isAbsolute path then [FilePath.Component.root]
    else if (namesOf path).head? = some ['.'] then [.here] else []) ++
      (namesOf path).filterMap component?) = [.here] ↔ _
  by_cases absolute : isAbsolute path = true
  · simp [absolute]
  · by_cases pointed : (namesOf path).head? = some ['.']
    · simp [absolute, pointed]
    · simp only [absolute, Bool.false_eq_true, ↓reduceIte, pointed, List.nil_append, false_and,
        and_false, iff_false]
      intro only
      rw [only] at noHere
      exact noHere List.mem_cons_self

/-- The names of a path that is not empty are those in front of what is joined to it, and an empty
one if a slash ends it. -/
theorem namesOf_eq_leadNames {path : FilePath} (filled : path ≠ []) :
    namesOf path = leadNames path ∨ namesOf path = leadNames path ++ [[]] := by
  unfold leadNames
  rw [if_neg filled]
  split
  · rename_i slash
    obtain ⟨front, rfl⟩ := List.getLast?_eq_some_iff.mp slash
    rw [List.dropLast_concat]
    exact .inr (Text.splitOn_append_cons '/' front [])
  · exact .inl rfl

/-- Names without slashes are relative and single. -/
theorem names_of_single {name : Text} (single : '/' ∉ name) :
    isAbsolute name = false ∧ namesOf name = [name] := by
  refine ⟨?_, Text.splitOn_of_notMem single⟩
  cases name with
  | nil => rfl
  | cons c rest =>
    have other : c ≠ '/' := fun same => single (by simp [same])
    simpa [isAbsolute] using other

/-- Where an entry of a directory on a search leads. -/
theorem locate_enter {tree : Tree} {start location : Location} {path : FilePath} {name : Text}
    (entered : Entered path) (single : '/' ∉ name) (filled : path = hereDirectory → name ≠ []) :
    tree.locate start (enter path name) = .ok location ↔
      ∃ place, tree.locate start path = .ok place ∧ tree.node? place = some .directory ∧
        location = Tree.step place name := by
  obtain ⟨relative, names⟩ := names_of_single single
  obtain ⟨some, here | other⟩ := entered
  · subst here
    have reflexive : same hereDirectory hereDirectory = true := by decide
    have point : ∀ place, tree.locate start hereDirectory = .ok place ↔
        tree.node? start = Option.some .directory ∧ place = start := by
      intro place
      show tree.walk start [['.']] = .ok place ↔ _
      rw [Tree.walk_cons_ok]
      simp [Tree.walk, Tree.step, eq_comm]
    rw [enter, if_pos reflexive, Tree.locate_eq (filled rfl), names, Tree.origin, relative,
      if_neg (by simp), Tree.walk_cons_ok]
    simp only [point, Tree.walk, Except.ok.injEq]
    constructor
    · rintro ⟨directory, rfl⟩
      exact ⟨start, ⟨directory, rfl⟩, directory, rfl⟩
    · rintro ⟨_, ⟨directory, rfl⟩, -, rfl⟩
      exact ⟨directory, rfl⟩
  · have joined : join path name ≠ [] := by
      unfold join
      simp only [relative, List.isEmpty_eq_false_iff.mpr some, Bool.or_self, Bool.false_eq_true,
        ↓reduceIte]
      split <;> simp [some]
    rw [enter, if_neg (by simp [other]), Tree.locate_eq joined, namesOf_join relative,
      origin_join relative, names, Tree.walk_concat_ok, Tree.locate_eq some]
    constructor
    · rintro ⟨middle, walked, directory, rfl⟩
      refine ⟨middle, ?_, directory, rfl⟩
      rcases namesOf_eq_leadNames some with whole | slashed
      · rw [whole, walked]
      · rw [slashed]
        exact Tree.walk_concat_ok.mpr ⟨middle, walked, directory, by simp [Tree.step]⟩
    · rintro ⟨place, walked, directory, rfl⟩
      rcases namesOf_eq_leadNames some with whole | slashed
      · rw [whole] at walked
        exact ⟨place, walked, directory, rfl⟩
      · rw [slashed] at walked
        obtain ⟨middle, before, inside, same⟩ := Tree.walk_concat_ok.mp walked
        obtain rfl : place = middle := by simpa [Tree.step] using same
        exact ⟨place, before, inside, rfl⟩

/-- An entry of a directory on a search is a path on a search. -/
theorem Entered.enter {path : FilePath} {name : Text} (entered : Entered path)
    (single : '/' ∉ name) (filled : path = hereDirectory → name ≠ []) :
    Entered (enter path name) := by
  obtain ⟨relative, names⟩ := names_of_single single
  obtain ⟨some, here | other⟩ := entered
  · subst here
    have reflexive : same hereDirectory hereDirectory = true := by decide
    rw [Glob.enter, if_pos reflexive]
    refine ⟨filled rfl, ?_⟩
    by_cases point : name = ['.']
    · exact .inl point
    · refine .inr ?_
      rw [Bool.eq_false_iff]
      intro same
      have head := (same_here_iff.mp same).2.1
      rw [names] at head
      exact point (by simpa using head)
  · have slashless : path.isEmpty = false := List.isEmpty_eq_false_iff.mpr some
    have joined : join path name ≠ [] := by
      unfold join
      simp only [relative, slashless, Bool.or_self, Bool.false_eq_true, ↓reduceIte]
      split <;> simp [some]
    rw [Glob.enter, if_neg (by simp [other])]
    refine ⟨joined, .inr ?_⟩
    rw [Bool.eq_false_iff] at other ⊢
    intro same
    obtain ⟨below, head, idle⟩ := same_here_iff.mp same
    apply other
    obtain ⟨c, rest, rfl⟩ := List.exists_cons_of_ne_nil some
    rw [namesOf_join relative, names] at head idle
    rw [List.filterMap_append, List.append_eq_nil_iff] at idle
    refine same_here_iff.mpr ⟨?_, ?_, ?_⟩
    · unfold join at below
      simp only [relative, List.isEmpty_cons, Bool.or_self, Bool.false_eq_true, ↓reduceIte] at below
      split at below <;> simpa [isAbsolute] using below
    · cases lead : leadNames (c :: rest) with
      | nil =>
        rcases namesOf_eq_leadNames some with whole | slashed
        · exact absurd (whole.trans lead) (namesOf_ne_nil _)
        · exfalso
          unfold leadNames at lead
          rw [if_neg some] at lead
          split at lead
          · exact namesOf_ne_nil _ lead
          · exact namesOf_ne_nil _ lead
      | cons first others =>
        rw [lead] at head
        rcases namesOf_eq_leadNames some with whole | slashed
        · rw [whole, lead]
          exact head
        · rw [slashed, lead]
          exact head
    · rcases namesOf_eq_leadNames some with whole | slashed
      · rw [whole]
        exact idle.1
      · have none : component? [] = none := by decide
        rw [slashed, List.filterMap_append, idle.1]
        simp [none]

/-- The names along which a search goes hold no wildcards and no slashes, and none is empty that has
nothing but points in front of it. -/
structure Searchable (path : FilePath) (names : List Text) : Prop where
  /-- No name holds a wildcard. -/
  tame : ∀ name ∈ names, Tame name
  /-- No name holds a slash. -/
  single : ∀ name ∈ names, '/' ∉ name
  /-- The first name but for points is not empty. -/
  filled : path = hereDirectory → (names.dropWhile (· == ['.'])).head? ≠ some []

namespace Searchable

variable {path : FilePath} {name : Text} {names : List Text}

/-- The first name of a search. -/
theorem head_ne_nil (search : Searchable path (name :: names)) :
    path = hereDirectory → name ≠ [] := by
  rintro here rfl
  exact search.filled here (by simp)

/-- The search goes on behind its first name. -/
theorem tail (search : Searchable path (name :: names)) (entered : Entered path) :
    Searchable (enter path name) names := by
  refine ⟨fun other member => search.tame other (List.mem_cons_of_mem _ member),
    fun other member => search.single other (List.mem_cons_of_mem _ member), ?_⟩
  intro here
  have reflexive : same hereDirectory hereDirectory = true := by decide
  obtain ⟨some, point | other⟩ := entered
  · subst point
    have named : name = hereDirectory := by rwa [enter, if_pos reflexive] at here
    subst named
    exact search.filled rfl
  · have next : enter path name = join path name := by rw [enter, if_neg (by simp [other])]
    obtain ⟨relative, single⟩ := names_of_single (search.single name List.mem_cons_self)
    rw [next] at here
    -- A path to which something is joined is longer than a point, or was one.
    obtain ⟨c, rest, rfl⟩ := List.exists_cons_of_ne_nil some
    unfold join at here
    simp only [relative, List.isEmpty_cons, Bool.or_self, Bool.false_eq_true, ↓reduceIte] at here
    split at here
    · have pointed : c :: rest = hereDirectory := by
        have length := congrArg List.length here
        simp only [hereDirectory, List.length_append, List.length_cons, List.length_nil] at length
        have short : rest = [] := List.eq_nil_of_length_eq_zero (by omega)
        subst short
        simpa [hereDirectory] using (List.cons.inj here).1
      rw [pointed, reflexive] at other
      exact absurd other (by simp)
    · have length := congrArg List.length here
      simp only [hereDirectory, List.length_append, List.length_cons, List.length_nil] at length
      omega

end Searchable

/-- What a name without wildcards finds. -/
theorem oneName_chars {tree : Tree} (wellFormed : tree.WellFormed) {start location : Location}
    {path : FilePath} {name : Text} (entered : Entered path) (single : '/' ∉ name)
    (filled : path = hereDirectory → name ≠ [])
    (reached : tree.locate start path = .ok location) :
    oneName tree start (name.map .char) path =
      if tree.node? location = some .directory ∧ tree.node? (Tree.step location name) ≠ none
      then [enter path name] else [] := by
  have next := @locate_enter tree start (Tree.step location name) path name entered single filled
  have there : (if name = ['.'] || name = ['.', '.'] then tree.isDirectory start path
      else tree.occupied start (enter path name)) = true ↔
      tree.node? location = some .directory ∧ tree.node? (Tree.step location name) ≠ none := by
    by_cases points : name = ['.'] ∨ name = ['.', '.']
    · have lower : tree.node? location = some .directory →
          tree.node? (Tree.step location name) ≠ none := by
        intro directory
        rcases points with rfl | rfl
        · simp [Tree.step, directory]
        · have up : Tree.step location ['.', '.'] = location.dropLast := by simp [Tree.step]
          rw [up, wellFormed.directory_dropLast directory]
          simp
      have pointed : (name = ['.'] || name = ['.', '.']) = true := by simpa using points
      rw [if_pos pointed, Tree.isDirectory_iff]
      constructor
      · rintro ⟨place, again, directory⟩
        rw [reached, Except.ok.injEq] at again
        rw [← again] at directory
        exact ⟨directory, lower directory⟩
      · exact fun both => ⟨location, reached, both.1⟩
    · have unpointed : ¬(name = ['.'] || name = ['.', '.']) = true := by simpa using points
      rw [if_neg unpointed, Tree.occupied_iff]
      constructor
      · rintro ⟨place, found, there⟩
        obtain ⟨own, again, directory, rfl⟩ := (locate_enter entered single filled).mp found
        rw [reached, Except.ok.injEq] at again
        subst again
        exact ⟨directory, there⟩
      · rintro ⟨directory, there⟩
        exact ⟨_, next.mpr ⟨location, reached, directory, rfl⟩, there⟩
  rw [oneName, plain?_chars]
  by_cases both : tree.node? location = some .directory ∧
      tree.node? (Tree.step location name) ≠ none
  · rw [if_pos both]
    exact if_pos (there.mpr both)
  · rw [if_neg both]
    exact if_neg fun found => both (there.mp found)

/-- Searching along names without wildcards, and one name behind them. -/
theorem expand_cons {tree : Tree} {start : Location} {path : FilePath} {name : Text}
    {names : List Text} {last : List GlobToken} :
    expand tree start ((name :: names).map (·.map .char) ++ [last]) path =
      (oneName tree start (name.map .char) path).flatMap
        (expand tree start (names.map (·.map .char) ++ [last])) := by
  have plain : name.map GlobToken.char ≠ [.anyDirectories] := by
    cases name <;> simp
  cases names with
  | nil => simp [expand, plain]
  | cons next more => simp [expand, plain]

/-- A search along names that lead to a directory goes on there, and others find nothing. -/
theorem expand_names {tree : Tree} (wellFormed : tree.WellFormed) {start : Location}
    {last : List GlobToken} (named : last ≠ [.anyDirectories]) (wild : plain? last = none)
    {names : List Text} : ∀ {path : FilePath} {location : Location}, Entered path →
    Searchable path names → tree.locate start path = .ok location →
    (∀ place, tree.walk location names = .ok place → tree.node? place = some .directory →
      ∃ other, Entered other ∧ tree.locate start other = .ok place ∧
        expand tree start (names.map (·.map .char) ++ [last]) path =
          oneName tree start last other) ∧
    ((∀ place, tree.walk location names = .ok place → tree.node? place ≠ some .directory) →
      expand tree start (names.map (·.map .char) ++ [last]) path = []) := by
  induction names with
  | nil =>
    intro path location entered _ reached
    have only : expand tree start [last] path = oneName tree start last path := by
      simp [expand, named]
    constructor
    · rintro place ⟨⟩ directory
      exact ⟨path, entered, reached, only⟩
    · intro noDirectory
      have none : tree.isDirectory start path = false := by
        rw [Bool.eq_false_iff, ne_eq, Tree.isDirectory_iff]
        rintro ⟨place, again, directory⟩
        rw [reached, Except.ok.injEq] at again
        subst again
        exact noDirectory _ rfl directory
      show expand tree start [last] path = []
      rw [only, oneName, wild]
      simp [none]
  | cons name rest ih =>
    intro path location entered search reached
    have single := search.single name List.mem_cons_self
    have filled := search.head_ne_nil
    have one := oneName_chars wellFormed entered single filled reached
    rw [expand_cons, one]
    by_cases there : tree.node? location = some .directory ∧
        tree.node? (Tree.step location name) ≠ none
    · have next : tree.locate start (enter path name) = .ok (Tree.step location name) :=
        (locate_enter entered single filled).mpr ⟨location, reached, there.1, rfl⟩
      obtain ⟨success, failure⟩ := ih (entered.enter single filled) (search.tail entered) next
      rw [if_pos there, List.flatMap_cons, List.flatMap_nil, List.append_nil]
      refine ⟨fun place walked => success place (Tree.walk_cons_ok.mp walked).2,
        fun noDirectory => failure fun place walked => ?_⟩
      exact noDirectory place (Tree.walk_cons_ok.mpr ⟨there.1, walked⟩)
    · rw [if_neg there]
      refine ⟨fun place walked directory => ?_, fun _ => rfl⟩
      obtain ⟨here, behind⟩ := Tree.walk_cons_ok.mp walked
      exfalso
      refine there ⟨here, ?_⟩
      intro none
      cases rest with
      | nil =>
        obtain rfl : Tree.step location name = place := by simpa [Tree.walk] using behind
        rw [none] at directory
        simp at directory
      | cons more others =>
        have further := (Tree.walk_cons_ok.mp behind).1
        rw [none] at further
        simp at further

/-- The entries of a directory that a star and characters find. -/
theorem oneName_star {tree : Tree} {start location : Location} {path : FilePath} {ending : Text}
    (reached : tree.locate start path = .ok location)
    (directory : tree.node? location = some .directory) :
    oneName tree start (.anyChars :: ending.map .char) path =
      ((tree.children location).filter (ending.isSuffixOf ·)).map (enter path) := by
  have isDirectory : tree.isDirectory start path = true :=
    Tree.isDirectory_iff.mpr ⟨location, reached, directory⟩
  have matched : matchesName (.anyChars :: ending.map .char) = fun name => ending.isSuffixOf name := by
    funext name
    rw [Bool.eq_iff_iff, matchesName_star, List.isSuffixOf_iff_suffix]
  rw [oneName]
  simp only [plain?, isDirectory, ↓reduceIte, names, reached, matched, pointNames]
  simp

/-- The components of an entry of a directory on a search. -/
theorem components_enter {path : FilePath} (entered : Entered path) :
    ∃ front : List FilePath.Component, ∀ name : Text, IsName name →
      components (enter path name) = front ++ [FilePath.Component.name name] := by
  obtain ⟨some, here | other⟩ := entered
  · subst here
    have reflexive : same hereDirectory hereDirectory = true := by decide
    refine ⟨[], fun name isName => ?_⟩
    have names : Text.splitOn '/' name = [name] := isName.namesOf_eq
    rw [enter, if_pos reflexive]
    simp [components, isName.isAbsolute_eq, names, isName.ne_point, isName.component?_eq]
  · refine ⟨(if isAbsolute path then [.root]
      else if (leadNames path).head? = Option.some ['.'] then [.here] else []) ++
        (leadNames path).filterMap component?, fun name isName => ?_⟩
    have names : Text.splitOn '/' (join path name) = leadNames path ++ [name] := by
      have split := @namesOf_join path name isName.isAbsolute_eq
      rwa [isName.namesOf_eq] at split
    have absolute : isAbsolute (join path name) = isAbsolute path :=
      isAbsolute_join isName.isAbsolute_eq
    have head : (leadNames path ++ [name]).head? = (leadNames path).head? := by
      cases lead : leadNames path with
      | nil =>
        unfold leadNames at lead
        rw [if_neg some] at lead
        split at lead
        · exact absurd lead (namesOf_ne_nil _)
        · exact absurd lead (namesOf_ne_nil _)
      | cons first others => rfl
    rw [enter, if_neg (by simp [other])]
    simp [components, names, absolute, head, isName.component?_eq]

/-- The order of entries of one directory is that of their names. -/
theorem componentsPrecede_append (front : List FilePath.Component) (first second : Text) :
    componentsPrecede (front ++ [FilePath.Component.name first])
      (front ++ [FilePath.Component.name second]) = Text.precedes first second := by
  induction front with
  | nil =>
    by_cases equal : first = second
    · subst equal
      simp [componentsPrecede, Text.precedes_self]
    · simp [componentsPrecede, equal, Component.precedes]
  | cons component rest ih => simp [componentsPrecede, ih]

/-- The first of the entries of a directory. -/
theorem least?_enter {path : FilePath} (entered : Entered path) {names : List Text}
    (named : ∀ name ∈ names, IsName name) :
    FilePath.least? (names.map (enter path)) = (Text.least? names).map (enter path) := by
  obtain ⟨front, components⟩ := components_enter entered
  induction names with
  | nil => rfl
  | cons name rest ih =>
    have later := ih fun other member => named other (List.mem_cons_of_mem name member)
    rw [List.map_cons, FilePath.least?, later, Text.least?]
    cases found : Text.least? rest with
    | none => rfl
    | some other =>
      have isOther := named other
        (List.mem_cons_of_mem name (Text.least?_spec found).1)
      have order : precedes (enter path other) (enter path name) = Text.precedes other name := by
        rw [precedes, components other isOther, components name (named name List.mem_cons_self),
          componentsPrecede_append]
      simp only [Option.map_some, order]
      split <;> rfl

/-- The file name of an entry of a directory is its name. -/
theorem fileName?_enter {path : FilePath} (entered : Entered path) {name : Text}
    (isName : IsName name) : fileName? (enter path name) = some name := by
  obtain ⟨front, components⟩ := components_enter entered
  simp [fileName?, components name isName]

/-- The entries of a directory that end with a text. -/
def endingIn (tree : Tree) (location : Location) (ending : Text) : List Text :=
  (tree.children location).filter (ending.isSuffixOf ·)

/-- An entry of a directory that ends with a text. -/
theorem mem_endingIn {tree : Tree} {location : Location} {ending name : Text} :
    name ∈ endingIn tree location ending ↔
      tree.node? (location ++ [name]) ≠ none ∧ ending <:+ name := by
  rw [endingIn, List.mem_filter, Tree.mem_children, List.isSuffixOf_iff_suffix,
    Option.isSome_iff_ne_none]

/-- A pattern with one star at the front of its last name, below a directory. -/
structure Starred (directory : FilePath) (ending : Text) : Prop where
  /-- The directory holds no wildcards. -/
  tame : Tame directory
  /-- It is not empty and no slash ends it. -/
  closed : leadNames directory = namesOf directory ∧ directory ≠ []
  /-- Its first name but for points is not empty. -/
  filled : isAbsolute directory = false →
    ((namesOf directory).dropWhile (· == ['.'])).head? ≠ some []
  /-- What stands behind the star holds no wildcards. -/
  tameEnding : Tame ending
  /-- It holds no slash. -/
  single : '/' ∉ ending

/-- The names of a pattern behind its start. -/
theorem patternNames_eq {directory : FilePath} {ending : Text} (starred : Starred directory ending) :
    patternNames (join directory ('*' :: ending)) =
      (if isAbsolute directory then (namesOf directory).tail else namesOf directory) ++
        ['*' :: ending] := by
  have slashless : '/' ∉ '*' :: ending := by simp [starred.single]
  obtain ⟨relative, names⟩ := names_of_single slashless
  have split : namesOf (join directory ('*' :: ending)) = namesOf directory ++ ['*' :: ending] := by
    rw [namesOf_join relative, starred.closed.1, names]
  have absolute : isAbsolute (join directory ('*' :: ending)) = isAbsolute directory :=
    isAbsolute_join relative
  obtain ⟨c, rest, rfl⟩ := List.exists_cons_of_ne_nil starred.closed.2
  rw [patternNames, absolute]
  by_cases slash : isAbsolute (c :: rest) = true
  · obtain rfl : c = '/' := by simpa [isAbsolute] using slash
    have first : namesOf ('/' :: rest) = [] :: Text.splitOn '/' rest := by
      simp [namesOf, Text.splitOn, Text.splitWhere]
    have whole : ∀ {path : FilePath}, isAbsolute path = true →
        namesOf path = [] :: Text.splitOn '/' (path.drop 1) := by
      intro path leads
      cases path with
      | nil => simp [isAbsolute] at leads
      | cons d more =>
        obtain rfl : d = '/' := by simpa [isAbsolute] using leads
        simp [namesOf, Text.splitOn, Text.splitWhere]
    have both := whole (absolute.trans slash)
    rw [split, first, List.cons_append, List.cons.injEq] at both
    rw [if_pos slash, if_pos slash, ← both.2, first]
    rfl
  · rw [if_neg slash, if_neg slash]
    exact split

/-- What reading the names of a pattern gives. -/
theorem mapM_read? {names : List Text} {ending : Text} (tame : ∀ name ∈ names, Tame name)
    (tameEnding : Tame ending) : (names ++ ['*' :: ending]).mapM read? = some
      (names.map (·.map GlobToken.char) ++
        [GlobToken.anyChars :: ending.map GlobToken.char]) := by
  induction names with
  | nil => simp [read?_star tameEnding]
  | cons name rest ih =>
    have later := ih fun other member => tame other (List.mem_cons_of_mem name member)
    rw [List.cons_append, List.mapM_cons, read?_tame (tame name List.mem_cons_self), later]
    rfl

/-- Whether a pattern is well formed does not depend on the tree. -/
theorem exists_find? {tree : Tree} {start : Location} {pattern : FilePath} {found : List FilePath}
    (searched : find? tree start pattern = some found) (other : Tree) :
    ∃ more, find? other start pattern = some more := by
  simp only [find?, Option.bind_eq_bind, Option.bind_eq_some_iff] at searched ⊢
  obtain ⟨whole, read, patterns, each, -⟩ := searched
  exact ⟨_, whole, read, patterns, each, rfl⟩

/-- The directory that the names of a pattern start from, and what they lead along. -/
theorem locate_patternStart {tree : Tree} {start : Location}
    (begins : tree.node? start = some .directory) {directory : FilePath} {ending : Text}
    (starred : Starred directory ending) :
    ∃ (path : FilePath) (names : List Text) (location : Location),
      path = (if isAbsolute (join directory ('*' :: ending)) then ['/'] else hereDirectory) ∧
      patternNames (join directory ('*' :: ending)) = names ++ ['*' :: ending] ∧
      Entered path ∧ Searchable path names ∧ tree.locate start path = .ok location ∧
      tree.locate start directory = tree.walk location names := by
  have slashless : '/' ∉ '*' :: ending := by simp [starred.single]
  obtain ⟨relative, -⟩ := names_of_single slashless
  have absolute : isAbsolute (join directory ('*' :: ending)) = isAbsolute directory :=
    isAbsolute_join relative
  have pieces : ∀ name ∈ namesOf directory, Tame name ∧ '/' ∉ name := by
    intro name member
    refine ⟨fun c inside => starred.tame c ?_, Text.notMem_of_mem_splitOn member⟩
    rw [← Text.joinWith_splitOn '/' directory]
    exact Text.mem_joinWith_of_mem ['/'] member inside
  have split := patternNames_eq starred
  rw [absolute, Tree.locate_eq starred.closed.2, Tree.origin]
  by_cases slash : isAbsolute directory = true
  · have parts : ∀ name ∈ (namesOf directory).tail, Tame name ∧ '/' ∉ name :=
      fun name member => pieces name (List.mem_of_mem_tail member)
    obtain ⟨rest, names⟩ : ∃ rest, namesOf directory = [] :: rest := by
      obtain ⟨c, more, rfl⟩ := List.exists_cons_of_ne_nil starred.closed.2
      obtain rfl : c = '/' := by simpa [isAbsolute] using slash
      exact ⟨_, by simp [namesOf, Text.splitOn, Text.splitWhere]; rfl⟩
    rw [if_pos slash] at split ⊢
    refine ⟨['/'], (namesOf directory).tail, [], rfl, split, ⟨by simp, .inr (by decide)⟩, ?_, ?_, ?_⟩
    · exact ⟨fun name member => (parts name member).1, fun name member => (parts name member).2,
        fun here => absurd here (by decide)⟩
    · rfl
    · rw [if_pos slash, names]
      rfl
  · have free : isAbsolute directory = false := by simpa using slash
    rw [if_neg slash] at split ⊢
    refine ⟨hereDirectory, namesOf directory, start, rfl, split, ⟨by decide, .inl rfl⟩, ?_, ?_, ?_⟩
    · exact ⟨fun name member => (pieces name member).1, fun name member => (pieces name member).2,
        fun _ => starred.filled free⟩
    · show tree.walk start [['.']] = .ok start
      exact Tree.walk_cons_ok.mpr ⟨begins, rfl⟩
    · rw [if_neg slash]

/-- **The first entry that a pattern finds.** It is the least name that ends as the pattern does in
the directory that the pattern leads to, and there is none without such a directory. -/
theorem fileName?_least_find? {tree : Tree} (wellFormed : tree.WellFormed) {start : Location}
    (begins : tree.node? start = some .directory) {directory : FilePath} {ending : Text}
    (starred : Starred directory ending) {found : List FilePath}
    (searched : find? tree start (join directory ('*' :: ending)) = some found) :
    (∀ location, tree.locate start directory = .ok location →
      tree.node? location = some .directory →
      (FilePath.least? found).bind fileName? = Text.least? (endingIn tree location ending)) ∧
    ((∀ location, tree.locate start directory = .ok location →
      tree.node? location ≠ some .directory) → found = []) := by
  obtain ⟨path, names, origin, leads, split, entered, searchable, reached, walked⟩ :=
    locate_patternStart begins starred
  obtain rfl : expand tree start (names.map (·.map .char) ++ [.anyChars :: ending.map .char]) path =
      found := by
    simp only [find?, Option.bind_eq_bind, Option.bind_eq_some_iff] at searched
    obtain ⟨-, -, patterns, each, same⟩ := searched
    rw [split, mapM_read? searchable.tame starred.tameEnding, Option.some.injEq] at each
    rw [each, leads]
    simpa using same
  obtain ⟨success, failure⟩ := @expand_names tree wellFormed start
    (.anyChars :: ending.map .char) (by simp) rfl names path origin entered searchable reached
  constructor
  · intro location leads directory
    rw [walked] at leads
    obtain ⟨other, otherEntered, otherReached, same⟩ := success location leads directory
    have named : ∀ name ∈ endingIn tree location ending, IsName name :=
      fun name member => (wellFormed location name (mem_endingIn.mp member).1).1
    have first : FilePath.least? ((endingIn tree location ending).map (enter other)) =
        (Text.least? (endingIn tree location ending)).map (enter other) :=
      least?_enter otherEntered named
    rw [same, oneName_star otherReached directory]
    show (FilePath.least? ((endingIn tree location ending).map (enter other))).bind fileName? = _
    rw [first]
    cases least : Text.least? (endingIn tree location ending) with
    | none => rfl
    | some name => exact fileName?_enter otherEntered (named name (Text.least?_spec least).1)
  · intro noDirectory
    exact failure fun place reaches => noDirectory place (walked.trans reaches)

end Scaffold.Glob
