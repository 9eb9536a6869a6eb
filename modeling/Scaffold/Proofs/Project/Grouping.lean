import Scaffold.Proofs.Registry.Reloading

/-!
# Groups of entries

Entries are added to files group by group (`Project.Adds`): all entries of a file together, or each
entry on its own. What becomes of a file depends only on the entries of all its groups in their
order (`Adds.becomes`), and so does whether that goes well (`exists_adds`), as long as no copy of a
shared file takes the place of another one. So two ways to group the same entries come to the same
(`adds_agree`).
-/
namespace Scaffold

namespace SharedFile

open Project

variable {file middle updated : SharedFile} {registrations more : List Registration}

/-- Entries make a file of another one. -/
def Yields (file : SharedFile) (registrations : List Registration) (updated : SharedFile) : Prop :=
  ∃ reports, insertAll [] file registrations = .ok (updated, reports)

/-- The path of a file only stands in the reports. -/
theorem insertAll_path {path : FilePath} {reports : List EntryReport} (other : FilePath)
    (done : insertAll path file registrations = .ok (updated, reports)) :
    ∃ reports, insertAll other file registrations = .ok (updated, reports) := by
  induction registrations generalizing file reports with
  | nil =>
    obtain ⟨rfl, -⟩ := insertAll_nil_ok.mp done
    exact ⟨[], rfl⟩
  | cons registration rest ih =>
    obtain ⟨answer, changed, later, first, others, -⟩ := insertAll_cons_ok.mp done
    obtain ⟨reports, again⟩ := ih others
    exact ⟨_, insertAll_cons_ok.mpr ⟨answer, changed, reports, first, again, rfl⟩⟩

/-- Insertions that are reported make a file of another one. -/
theorem yields_iff (path : FilePath) : file.Yields registrations updated ↔
    ∃ reports, insertAll path file registrations = .ok (updated, reports) :=
  ⟨fun ⟨_, done⟩ => insertAll_path path done, fun ⟨_, done⟩ => insertAll_path [] done⟩

/-- Entries make one file of another one. -/
theorem Yields.unique {other : SharedFile} (first : file.Yields registrations updated)
    (second : file.Yields registrations other) : updated = other := by
  obtain ⟨_, done⟩ := first
  obtain ⟨_, again⟩ := second
  rw [done] at again
  simpa using (Prod.mk.inj (Except.ok.inj again)).1

/-- Entries behind others go on with what these make of a file. -/
theorem yields_append : file.Yields (registrations ++ more) updated ↔
    ∃ middle, file.Yields registrations middle ∧ middle.Yields more updated := by
  induction registrations generalizing file with
  | nil =>
    constructor
    · exact fun done => ⟨file, ⟨[], rfl⟩, done⟩
    · rintro ⟨middle, ⟨reports, done⟩, rest⟩
      obtain ⟨rfl, -⟩ := insertAll_nil_ok.mp done
      exact rest
  | cons registration rest ih =>
    constructor
    · rintro ⟨reports, done⟩
      obtain ⟨answer, changed, later, first, others, -⟩ := insertAll_cons_ok.mp done
      obtain ⟨middle, ⟨early, behind⟩, last⟩ := ih.mp ⟨later, others⟩
      exact ⟨middle, ⟨_, insertAll_cons_ok.mpr ⟨answer, changed, early, first, behind, rfl⟩⟩, last⟩
    · rintro ⟨middle, ⟨reports, done⟩, last⟩
      obtain ⟨answer, changed, later, first, others, -⟩ := insertAll_cons_ok.mp done
      obtain ⟨all, whole⟩ := ih.mpr ⟨middle, ⟨later, others⟩, last⟩
      exact ⟨_, insertAll_cons_ok.mpr ⟨answer, changed, all, first, whole, rfl⟩⟩

/-- What entries make of a stable file is stable. -/
theorem Yields.stable (done : file.Yields registrations updated) (stable : file.Stable)
    (lined : ∀ registration ∈ registrations, registration.Lined) : updated.Stable := by
  obtain ⟨reports, done⟩ := done
  exact stable_insertAll stable lined done

/-- Entries only add lines. -/
theorem Yields.sublist (done : file.Yields registrations updated) :
    file.lines.Sublist updated.lines ∧ updated.ended = file.ended := by
  obtain ⟨reports, done⟩ := done
  obtain ⟨ended, added, weave, -⟩ := weave_insertAll done
  exact ⟨weave.sublist, ended⟩

/-- Where a text is the same in the end, it was the same all the way. -/
theorem Yields.toText_eq {before : Text} (filled : before ≠ []) (clean : '\x0d' ∉ before)
    (first : (ofText before).Yields registrations middle) (second : middle.Yields more updated)
    (stable : updated.Stable) (same : updated.toText = before) : middle.toText = before := by
  have whole : updated = ofText before := by
    have back := stable.reload_eq
    rw [reload, same] at back
    exact back.symm
  obtain ⟨early, ended⟩ := first.sublist
  obtain ⟨late, -⟩ := second.sublist
  rw [whole] at late
  have lines := late.eq_of_length (Nat.le_antisymm late.length_le early.length_le)
  have unchanged : middle = ofText before := by
    cases middle
    simp only at lines ended
    rw [lines, ended]
  rw [unchanged, saved_of_clean filled clean]

end SharedFile

namespace Project

open Scaffold.Tree SharedFile

variable {project : Project} {tree middle changed : Tree} {location : Location}

/-- A file with entries for it. -/
abbrev Group := FilePath × List Registration

/-- Entries are added to files, one group after the other. -/
inductive Adds (project : Project) : Tree → List Group → Tree → Prop where
  /-- There are no groups. -/
  | nil (tree : Tree) : Adds project tree [] tree
  /-- The entries of a first group are added, and then the others. -/
  | cons {tree middle changed : Tree} {group : Group} {rest : List Group}
      {reports : List EntryReport}
      (first : project.addEntries tree group.1 group.2 = (middle, .ok reports))
      (others : Adds project middle rest changed) : Adds project tree (group :: rest) changed

/-- A path of the project leads to a place. -/
def Leads (project : Project) (tree : Tree) (file : FilePath) (location : Location) : Prop :=
  tree.locate project.start (project.pathOf file) = .ok location

instance (project : Project) (tree : Tree) (file : FilePath) (location : Location) :
    Decidable (project.Leads tree file location) :=
  inferInstanceAs (Decidable (_ = _))

/-- The entries of all groups whose file leads to a place. -/
def ownAt (project : Project) (tree : Tree) (groups : List Group) (location : Location) :
    List Registration :=
  (groups.filter fun group => project.Leads tree group.1 location).flatMap (·.2)

/-- The path of one of the groups leads to a file at a place. -/
def IsShared (project : Project) (tree : Tree) (groups : List Group) (location : Location) : Prop :=
  (∃ group ∈ groups, project.Leads tree group.1 location) ∧
    ∃ content, tree.node? location = some (.file content)

/-- Groups that do not get in each other's way. -/
structure Suited (project : Project) (tree : Tree) (groups : List Group) : Prop where
  /-- Their entries are lines. -/
  lined : ∀ group ∈ groups, ∀ registration ∈ group.2, registration.Lined
  /-- Their files hold texts without carriage returns. -/
  texts : ∀ {location}, project.IsShared tree groups location →
    ∃ text, tree.node? location = some (.file (.text text)) ∧ text ≠ [] ∧ '\x0d' ∉ text
  /-- No copy of a file lies where one of them is looked for. -/
  noCopy : ∀ {location}, project.IsShared tree groups location →
    ∀ group ∈ groups, ¬project.Leads tree group.1 (copyLocation location)

/-- A file was changed in its place, and its copy is gone if its text is another one. -/
structure Becomes (tree changed : Tree) (location : Location) (before : Text)
    (updated : SharedFile) : Prop where
  /-- The file has the new text. -/
  there : changed.node? location = some (.file (.text updated.toText))
  /-- The copy is gone if the text is another one. -/
  copy : changed.node? (copyLocation location) =
    if updated.toText = before then tree.node? (copyLocation location) else none
  /-- It took the place of no directory. -/
  free : updated.toText ≠ before → tree.node? (copyLocation location) ≠ some .directory

/-- The entries of a first group and of the others. -/
theorem ownAt_cons (tree : Tree) (group : Group) (rest : List Group) (location : Location) :
    project.ownAt tree (group :: rest) location =
      if project.Leads tree group.1 location then group.2 ++ project.ownAt tree rest location
      else project.ownAt tree rest location := by
  unfold ownAt
  by_cases leads : project.Leads tree group.1 location
  · simp [leads]
  · simp [leads]

/-- Paths lead to the same places where the directories are the same. -/
theorem leads_congr (same : ∀ place, middle.node? place = some .directory ↔
      tree.node? place = some .directory) {file : FilePath} :
    project.Leads middle file location ↔ project.Leads tree file location :=
  ⟨locate_mono fun place there => (same place).mp there,
    locate_mono fun place there => (same place).mpr there⟩

/-- The entries for a place are the same where the directories are the same. -/
theorem ownAt_congr (same : ∀ place, middle.node? place = some .directory ↔
      tree.node? place = some .directory) (groups : List Group) :
    project.ownAt middle groups location = project.ownAt tree groups location := by
  unfold ownAt
  simp only [leads_congr same]

/-- Different files have different copies. -/
theorem copyLocation_inj {other : Location} (filled : location ≠ []) (someOther : other ≠ [])
    (same : copyLocation location = copyLocation other) : location = other := by
  rcases List.eq_nil_or_concat location with rfl | ⟨parent, name, rfl⟩
  · exact absurd rfl filled
  · rcases List.eq_nil_or_concat other with rfl | ⟨directory, title, rfl⟩
    · exact absurd rfl someOther
    · rw [List.concat_eq_append, List.concat_eq_append, copyLocation_concat,
        copyLocation_concat] at same
      obtain ⟨rfl, last⟩ := List.append_inj' same rfl
      obtain rfl := List.append_cancel_right (List.singleton_inj.mp last)
      rfl

/-- What adding the entries of a group does to its file, and that nothing else changes. -/
theorem addEntries_becomes (writes : project.dryRun = false) (wellFormed : tree.WellFormed)
    {group : Group} {reports : List EntryReport}
    (done : project.addEntries tree group.1 group.2 = (changed, .ok reports)) :
    tree.isFile project.start (project.pathOf group.1) = false ∧ changed = tree ∨
    ∃ location before updated, project.Leads tree group.1 location ∧
      tree.node? location = some (.file (.text before)) ∧
      (ofText before).Yields group.2 updated ∧ Becomes tree changed location before updated ∧
      ∀ place, place ≠ location → place ≠ copyLocation location →
        changed.node? place = tree.node? place := by
  obtain ⟨-, ⟨missing, rfl, -⟩ | ⟨location, before, updated, reached, there, inserted,
    ⟨same, rfl⟩ | ⟨other, replaces⟩⟩⟩ := addEntries_spec writes wellFormed done
  · exact .inl ⟨missing, rfl⟩
  · exact .inr ⟨location, before, updated, reached, there, (yields_iff _).mpr ⟨_, inserted⟩,
      ⟨same ▸ there, by rw [if_pos same], fun other => absurd same other⟩, fun _ _ _ => rfl⟩
  · exact .inr ⟨location, before, updated, reached, there, (yields_iff _).mpr ⟨_, inserted⟩,
      ⟨replaces.there, by rw [if_neg other, replaces.gone], fun _ => replaces.free⟩,
      replaces.elsewhere⟩

variable {groups rest : List Group} {group : Group}

/-- A place that groups may use: none of them looks for a file where its copy lies, and it is no
place of a copy. -/
structure Apart (project : Project) (tree : Tree) (groups : List Group) (location : Location) :
    Prop where
  /-- No group looks for a file where the copy lies. -/
  aside : ∀ group ∈ groups, ¬project.Leads tree group.1 (copyLocation location)
  /-- It is no place of a copy. -/
  noCopy : ∀ origin, project.IsShared tree groups origin → location ≠ copyLocation origin

/-- The shared files of suited groups lie apart. -/
theorem Suited.apart (suited : project.Suited tree groups)
    (shared : project.IsShared tree groups location) : project.Apart tree groups location := by
  refine ⟨suited.noCopy shared, ?_⟩
  rintro origin other rfl
  obtain ⟨⟨group, member, leads⟩, -⟩ := shared
  exact suited.noCopy other group member leads

/-- What the entries of a first group do to a file: they are added to it, or it and the place of its
copy stay as they are. -/
theorem addEntries_apart (writes : project.dryRun = false) (wellFormed : tree.WellFormed)
    {reports : List EntryReport}
    (done : project.addEntries tree group.1 group.2 = (middle, .ok reports))
    (apart : project.Apart tree (group :: rest) location) {before : Text}
    (there : tree.node? location = some (.file (.text before))) :
    (project.Leads tree group.1 location ∧ ∃ updated,
      (ofText before).Yields group.2 updated ∧ Becomes tree middle location before updated) ∨
    (¬project.Leads tree group.1 location ∧ middle.node? location = tree.node? location ∧
      middle.node? (copyLocation location) = tree.node? (copyLocation location)) := by
  rcases addEntries_becomes writes wellFormed done with ⟨missing, rfl⟩ |
    ⟨origin, text, updated, leads, found, yields, becomes, elsewhere⟩
  · refine .inr ⟨fun leads => ?_, rfl, rfl⟩
    have isFile := isFile_iff.mpr ⟨location, _, leads, there⟩
    rw [missing] at isFile
    exact absurd isFile (by simp)
  · by_cases here : location = origin
    · subst here
      obtain rfl : before = text := by
        rw [there] at found
        simpa using found
      exact .inl ⟨leads, updated, yields, becomes⟩
    · have shared : project.IsShared tree (group :: rest) origin :=
        ⟨⟨group, List.mem_cons_self, leads⟩, _, found⟩
      have other : copyLocation location ≠ origin := fun same =>
        apart.aside group List.mem_cons_self (same ▸ leads)
      have copies : copyLocation location ≠ copyLocation origin := fun same =>
        here (copyLocation_inj (ne_nil_of_file there) (ne_nil_of_file found) same)
      refine .inr ⟨fun again => ?_, elsewhere _ here (apart.noCopy origin shared),
        elsewhere _ other copies⟩
      rw [Leads, leads, Except.ok.injEq] at again
      exact here again.symm

/-- After the entries of a first group were added, the files of the others are among those that were
shared. -/
theorem IsShared.of_step (writes : project.dryRun = false) (wellFormed : tree.WellFormed)
    (suited : project.Suited tree (group :: rest)) {reports : List EntryReport}
    (done : project.addEntries tree group.1 group.2 = (middle, .ok reports))
    (shared : project.IsShared middle rest location) :
    project.IsShared tree (group :: rest) location := by
  have same := directory_iff_addEntries writes wellFormed done
  obtain ⟨⟨own, member, leads⟩, content, there⟩ := shared
  have before := (leads_congr same).mp leads
  refine ⟨⟨own, List.mem_cons_of_mem group member, before⟩, ?_⟩
  rcases addEntries_becomes writes wellFormed done with ⟨-, rfl⟩ |
    ⟨origin, text, updated, aims, found, -, -, elsewhere⟩
  · exact ⟨content, there⟩
  · by_cases here : location = origin
    · exact ⟨_, here ▸ found⟩
    · have copy : location ≠ copyLocation origin := by
        rintro rfl
        exact suited.noCopy ⟨⟨group, List.mem_cons_self, aims⟩, _, found⟩ own
          (List.mem_cons_of_mem group member) before
      exact ⟨content, by rw [← elsewhere location here copy, there]⟩

/-- A place lies apart from the others, too. -/
theorem Apart.of_step (writes : project.dryRun = false) (wellFormed : tree.WellFormed)
    (suited : project.Suited tree (group :: rest)) {reports : List EntryReport}
    (done : project.addEntries tree group.1 group.2 = (middle, .ok reports))
    (apart : project.Apart tree (group :: rest) location) :
    project.Apart middle rest location := by
  have same := directory_iff_addEntries writes wellFormed done
  refine ⟨fun own member leads => ?_, fun origin shared => ?_⟩
  · exact apart.aside own (List.mem_cons_of_mem group member) ((leads_congr same).mp leads)
  · exact apart.noCopy origin (shared.of_step writes wellFormed suited done)

/-- The other groups are still suited after the entries of a first one were added. -/
theorem Suited.of_step (writes : project.dryRun = false) (wellFormed : tree.WellFormed)
    (suited : project.Suited tree (group :: rest)) {reports : List EntryReport}
    (done : project.addEntries tree group.1 group.2 = (middle, .ok reports)) :
    project.Suited middle rest := by
  have same := directory_iff_addEntries writes wellFormed done
  refine ⟨fun own member => suited.lined own (List.mem_cons_of_mem group member), ?_, ?_⟩
  · intro location shared
    have first := shared.of_step writes wellFormed suited done
    obtain ⟨text, there, filled, clean⟩ := suited.texts first
    rcases addEntries_apart writes wellFormed done (suited.apart first) there with
      ⟨-, updated, yields, becomes⟩ | ⟨-, unchanged, -⟩
    · have stable := yields.stable (stable_ofText filled clean)
        (suited.lined group List.mem_cons_self)
      exact ⟨_, becomes.there, stable.toText_ne_nil, stable.noReturn⟩
    · exact ⟨text, by rw [unchanged, there], filled, clean⟩
  · intro location shared own member leads
    exact suited.noCopy (shared.of_step writes wellFormed suited done) own
      (List.mem_cons_of_mem group member) ((leads_congr same).mp leads)

/-- What the entries of further groups make of a stable file is stable. -/
theorem Suited.stable (suited : project.Suited tree (group :: rest)) {other : Tree}
    {between updated : SharedFile} (stable : between.Stable)
    (yields : between.Yields (project.ownAt other rest location) updated) : updated.Stable := by
  refine yields.stable stable fun registration member => ?_
  obtain ⟨own, listed, inside⟩ := List.mem_flatMap.mp member
  exact suited.lined own (List.mem_cons_of_mem group (List.mem_filter.mp listed).1)
    registration inside

/-- **What becomes of a file.** The entries of all groups for it are added in their order. -/
theorem Adds.becomes (writes : project.dryRun = false) (wellFormed : tree.WellFormed)
    (adds : project.Adds tree groups changed) (suited : project.Suited tree groups)
    (apart : project.Apart tree groups location) {before : Text}
    (there : tree.node? location = some (.file (.text before))) (filled : before ≠ [])
    (clean : '\x0d' ∉ before) :
    ∃ updated, (ofText before).Yields (project.ownAt tree groups location) updated ∧
      Becomes tree changed location before updated := by
  induction adds generalizing before with
  | nil tree =>
    have saved := saved_of_clean filled clean
    exact ⟨ofText before, ⟨[], rfl⟩, by rw [saved, there], by rw [if_pos saved],
      fun other => absurd saved other⟩
  | cons first others ih =>
    rename_i tree middle changed group rest reports
    have same := directory_iff_addEntries writes wellFormed first
    have whole := (addEntries_spec writes wellFormed first).1
    have later : ∀ {text : Text}, middle.node? location = some (.file (.text text)) →
        text ≠ [] → '\x0d' ∉ text → ∃ updated,
          (ofText text).Yields (project.ownAt tree rest location) updated ∧
            Becomes middle changed location text updated := by
      rw [← ownAt_congr same]
      exact ih whole (suited.of_step writes wellFormed first)
        (apart.of_step writes wellFormed suited first)
    rw [ownAt_cons]
    rcases addEntries_apart writes wellFormed first apart there with
      ⟨leads, between, early, step⟩ | ⟨aside, unchanged, copy⟩
    · rw [if_pos leads]
      have stable := early.stable (stable_ofText filled clean)
        (suited.lined group List.mem_cons_self)
      obtain ⟨updated, late, becomes⟩ := later step.there stable.toText_ne_nil stable.noReturn
      have reloaded : ofText between.toText = between := stable.reload_eq
      rw [reloaded] at late
      have settled : updated.toText = before → between.toText = before :=
        early.toText_eq filled clean late (suited.stable stable late)
      refine ⟨updated, yields_append.mpr ⟨between, early, late⟩, becomes.there, ?_, ?_⟩
      · rw [becomes.copy, step.copy]
        by_cases back : updated.toText = before
        · rw [if_pos back, if_pos (settled back), if_pos (by rw [back, settled back])]
        · rw [if_neg back]
          by_cases quiet : between.toText = before
          · rw [quiet, if_neg back]
          · rw [if_neg quiet]
            split <;> rfl
      · intro other directory
        by_cases quiet : between.toText = before
        · exact becomes.free (by rw [quiet]; exact other) ((same _).mpr directory)
        · exact step.free quiet directory
    · rw [if_neg aside]
      obtain ⟨updated, yields, becomes⟩ := later (by rw [unchanged, there]) filled clean
      exact ⟨updated, yields, becomes.there, by rw [becomes.copy, copy],
        fun other => by rw [← copy]; exact becomes.free other⟩

/-- What is no shared file and no place of a copy of one stays as it was. -/
theorem Adds.frame (writes : project.dryRun = false) (wellFormed : tree.WellFormed)
    (adds : project.Adds tree groups changed) (suited : project.Suited tree groups)
    (unshared : ¬project.IsShared tree groups location)
    (noCopy : ∀ origin, project.IsShared tree groups origin → location ≠ copyLocation origin) :
    changed.node? location = tree.node? location := by
  induction adds with
  | nil tree => rfl
  | cons first others ih =>
    rename_i tree middle changed group rest reports
    have whole := (addEntries_spec writes wellFormed first).1
    rw [ih whole (suited.of_step writes wellFormed first)
      (fun shared => unshared (shared.of_step writes wellFormed suited first))
      (fun origin shared => noCopy origin (shared.of_step writes wellFormed suited first))]
    rcases addEntries_becomes writes wellFormed first with ⟨-, rfl⟩ |
      ⟨origin, text, updated, leads, found, -, -, elsewhere⟩
    · rfl
    · have shared : project.IsShared tree (group :: rest) origin :=
        ⟨⟨group, List.mem_cons_self, leads⟩, _, found⟩
      refine elsewhere location ?_ (noCopy origin shared)
      rintro rfl
      exact unshared shared

/-- Adding entries to a file goes well if the insertions do and no directory lies where its copy
would. -/
theorem exists_addEntries (wellFormed : tree.WellFormed) {before : Text} {updated : SharedFile}
    (leads : project.Leads tree group.1 location)
    (there : tree.node? location = some (.file (.text before)))
    (yields : (ofText before).Yields group.2 updated)
    (free : updated.toText ≠ before → tree.node? (copyLocation location) ≠ some .directory) :
    ∃ middle reports, project.addEntries tree group.1 group.2 = (middle, .ok reports) := by
  have isFile := isFile_iff.mpr ⟨location, _, leads, there⟩
  have text := readText_ok.mpr ⟨location, leads, there⟩
  obtain ⟨reports, inserted⟩ := (yields_iff group.1).mp yields
  unfold addEntries
  simp only [isFile, Bool.not_true, Bool.false_eq_true, ↓reduceIte, text, inserted]
  split
  · exact ⟨tree, reports, rfl⟩
  · rename_i changes
    have other : updated.toText ≠ before := fun same => changes (by simp [same])
    obtain ⟨changed, replaced⟩ := @exists_replace project tree location _ updated.toText _
      wellFormed leads there (free other)
    exact ⟨changed, reports, by simp only [replaced]⟩

/-- **When adding entries goes well.** The insertions of the entries of all groups into each file go
well, and no directory lies where the copy of a file that changes would. -/
theorem exists_adds (writes : project.dryRun = false) (wellFormed : tree.WellFormed)
    (suited : project.Suited tree groups)
    (each : ∀ location before, project.IsShared tree groups location →
      tree.node? location = some (.file (.text before)) → ∃ updated,
        (ofText before).Yields (project.ownAt tree groups location) updated ∧
        (updated.toText ≠ before → tree.node? (copyLocation location) ≠ some .directory)) :
    ∃ changed, project.Adds tree groups changed := by
  induction groups generalizing tree with
  | nil => exact ⟨tree, .nil tree⟩
  | cons group rest ih =>
    -- The insertions into a file that are left after those of the first group.
    have later : ∀ {middle : Tree} {reports : List EntryReport},
        project.addEntries tree group.1 group.2 = (middle, .ok reports) →
        ∃ changed, project.Adds tree (group :: rest) changed := by
      intro middle reports first
      have same := directory_iff_addEntries writes wellFormed first
      have whole := (addEntries_spec writes wellFormed first).1
      have suitedRest := suited.of_step writes wellFormed first
      obtain ⟨changed, others⟩ := ih whole suitedRest fun location after shared there => by
        have sharedFirst := shared.of_step writes wellFormed suited first
        obtain ⟨before, was, filled, clean⟩ := suited.texts sharedFirst
        obtain ⟨updated, yields, free⟩ := each location before sharedFirst was
        rw [ownAt_cons] at yields
        rw [ownAt_congr same]
        rcases addEntries_apart writes wellFormed first (suited.apart sharedFirst) was with
          ⟨leads, between, early, step⟩ | ⟨aside, unchanged, copy⟩
        · rw [if_pos leads] at yields
          obtain ⟨other, begun, late⟩ := yields_append.mp yields
          obtain rfl := early.unique begun
          have stable := early.stable (stable_ofText filled clean)
            (suited.lined group List.mem_cons_self)
          obtain rfl : between.toText = after := by
            rw [step.there] at there
            simpa using there
          have reloaded : ofText between.toText = between := stable.reload_eq
          rw [reloaded]
          refine ⟨updated, late, fun other directory => free (fun back => other ?_)
            ((same _).mp directory)⟩
          rw [early.toText_eq filled clean late (suited.stable stable late) back, back]
        · rw [if_neg aside] at yields
          obtain rfl : before = after := by
            rw [unchanged, was] at there
            simpa using there
          exact ⟨updated, yields, fun other => by rw [copy]; exact free other⟩
      exact ⟨changed, .cons first others⟩
    by_cases isFile : tree.isFile project.start (project.pathOf group.1) = true
    · obtain ⟨location, content, reached, found⟩ := isFile_iff.mp isFile
      have leads : project.Leads tree group.1 location := reached
      have shared : project.IsShared tree (group :: rest) location :=
        ⟨⟨group, List.mem_cons_self, leads⟩, content, found⟩
      obtain ⟨before, was, filled, clean⟩ := suited.texts shared
      obtain ⟨updated, yields, free⟩ := each location before shared was
      rw [ownAt_cons, if_pos leads] at yields
      obtain ⟨between, early, late⟩ := yields_append.mp yields
      have stable := early.stable (stable_ofText filled clean)
        (suited.lined group List.mem_cons_self)
      obtain ⟨middle, reports, first⟩ := exists_addEntries wellFormed leads was early
        fun other => free fun back =>
          other (early.toText_eq filled clean late (suited.stable stable late) back)
      exact later first
    · have missing : tree.isFile project.start (project.pathOf group.1) = false := by
        simpa using isFile
      have nothing : project.addEntries tree group.1 group.2 = (tree, .ok (group.2.map
          fun registration => ⟨group.1, registration.entry.key, .fileNotFound⟩)) := by
        simp only [addEntries, missing, Bool.not_false, ↓reduceIte]
      exact later nothing

/-- Two ways to group the same entries come to the same: they go well together, and then to the same
tree. -/
theorem adds_agree (writes : project.dryRun = false) (wellFormed : tree.WellFormed)
    {others : List Group} (suited : project.Suited tree groups)
    (suitedToo : project.Suited tree others)
    (shared : ∀ location, project.IsShared tree groups location ↔
      project.IsShared tree others location)
    (same : ∀ location, project.IsShared tree groups location →
      project.ownAt tree groups location = project.ownAt tree others location)
    (adds : project.Adds tree groups changed) :
    ∃ last, project.Adds tree others last ∧
      ∀ last, project.Adds tree others last → ∀ place, changed.node? place = last.node? place := by
  have becomes : ∀ {location before}, project.IsShared tree groups location →
      tree.node? location = some (.file (.text before)) → ∃ updated,
        (ofText before).Yields (project.ownAt tree groups location) updated ∧
          Becomes tree changed location before updated := by
    intro location before own there
    obtain ⟨text, again, filled, clean⟩ := suited.texts own
    obtain rfl : before = text := by
      rw [there] at again
      simpa using again
    exact adds.becomes writes wellFormed suited (suited.apart own) there filled clean
  obtain ⟨last, done⟩ := exists_adds writes wellFormed suitedToo fun location before own there => by
    obtain ⟨updated, yields, result⟩ := becomes ((shared location).mpr own) there
    rw [same location ((shared location).mpr own)] at yields
    exact ⟨updated, yields, result.free⟩
  refine ⟨last, done, fun last done => ?_⟩
  -- Both ways make the same of a shared file, and of the place of its copy.
  have both : ∀ {location}, project.IsShared tree groups location →
      changed.node? location = last.node? location ∧
      changed.node? (copyLocation location) = last.node? (copyLocation location) := by
    intro location own
    obtain ⟨text, there, filled, clean⟩ := suited.texts own
    have ownToo := (shared location).mp own
    obtain ⟨updated, yields, result⟩ := becomes own there
    obtain ⟨other, again, resultToo⟩ := done.becomes writes wellFormed suitedToo
      (suitedToo.apart ownToo) there filled clean
    rw [← same location own] at again
    obtain rfl := yields.unique again
    exact ⟨by rw [result.there, resultToo.there], by rw [result.copy, resultToo.copy]⟩
  intro place
  by_cases own : project.IsShared tree groups place
  · exact (both own).1
  · by_cases copy : ∃ origin, project.IsShared tree groups origin ∧ place = copyLocation origin
    · obtain ⟨origin, ownOrigin, rfl⟩ := copy
      exact (both ownOrigin).2
    · rw [adds.frame writes wellFormed suited own fun origin inside there =>
        copy ⟨origin, inside, there⟩]
      exact (done.frame writes wellFormed suitedToo (fun inside => own ((shared place).mpr inside))
        fun origin inside there => copy ⟨origin, (shared origin).mpr inside, there⟩).symm

end Project

end Scaffold
