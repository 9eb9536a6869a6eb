import Scaffold.Proofs.Project.Repeating

/-!
# The icon of a menu item is imported

An installation adds the import of the icon to the navigation unless the icon stands somewhere in it as
a whole word (`contains_iconEntry`). So the icon is imported afterwards if it was not named before, and
if it was, the item of the menu is all that is put in (`icon_imported`). The import is one line and
stays whole (`imports_of_inserted`), and the item of the menu brings none (`imports_menuEntry`).
-/
namespace Scaffold

open Text

namespace Plan

open SharedFile

variable {plan : Plan} {layout : Layout} {file changed : SharedFile} {answer : Insertion}

/-- The import of the icon is recognised by the icon: its marker names it too. -/
theorem contains_iconEntry (identifier : IsIdentifier plan.menuIcon) (before : Text) :
    (ofText before).contains (plan.iconEntry layout).entry = wordOccursIn plan.menuIcon before := by
  have rowWise := rowWise_wordOccursIn identifier.isOneLine
  have joined : (ofText before).joined = unlines (lines before) := rfl
  rw [contains_eq, Entry.recognisedIn, Entry.any_lines_eq_any_rows, joined, Bool.eq_iff_iff,
    Bool.or_eq_true]
  show _ ∨ wordOccursIn plan.menuIcon (unlines (lines before)) = true ↔ _
  rw [wordOccursIn_lines identifier.isOneLine, or_iff_right_iff_imp]
  intro marked
  obtain ⟨row, member, same⟩ := List.any_eq_true.mp marked
  obtain ⟨front, behind, split, blank⟩ := exists_margins row
  have marker : trim row = Marker.start ++ ("entry " : Text) ++ plan.menuIcon := by
    rw [← Marker.entry_eq]
    exact beq_iff_eq.mp same
  have last : (Marker.start ++ ("entry " : Text)).getLast? = some ' ' := by decide
  rw [← wordOccursIn_lines identifier.isOneLine]
  refine (rowWise.iff_rows _).mpr ⟨row, member, ?_⟩
  rw [split, marker, List.append_assoc, ← List.append_assoc]
  refine identifier.wordOccursIn_between ?_ ?_
  · rw [List.getLast?_append, last, Option.some_or]
    decide
  · cases behind with
    | nil => rfl
    | cons c behind =>
      simpa using isIdentifierPart_of_isBlank (blank c (List.mem_append_right _ List.mem_cons_self))

/-- The line of the import imports the icon. -/
theorem imports_line (identifier : IsIdentifier plan.menuIcon) {line : Text}
    (member : line ∈ (plan.iconEntry layout).entry.lines) : imports plan.menuIcon line = true := by
  obtain rfl := List.mem_singleton.mp member
  have words : ("import " : Text) = "import" ++ [' '] ∧ (" from 'lucide-react';" : Text) =
      [' '] ++ ("from" ++ ([' '] ++ ("'lucide-react'" ++ [';']))) ∧ ("\x7b" : Text) = ['\x7b'] ∧
      ("\x7d" : Text) = ['\x7d'] := by decide
  have closed : '\x7d' ∉ [' '] ++ (plan.menuIcon ++ [' ']) := by
    have absent : '\x7d' ∉ plan.menuIcon := identifier.notMem (by decide)
    simp [absent]
  refine imports_iff.mpr ⟨[' '] ++ (plan.menuIcon ++ [' ']), _,
    ⟨[' '], [' '], [' '], rfl, closed, by decide⟩, ⟨[], [';'], ?_⟩,
    identifier.wordOccursIn_between (by decide) (by decide)⟩
  rw [words.1, words.2.1, words.2.2.1, words.2.2.2]
  simp only [Code.record, commaList, joinWith, braced, List.append_assoc, List.cons_append,
    List.nil_append]

example : imports "Home" "import \x7b Home \x7d from 'lucide-react';" = true := by
  decide +kernel

/-- **The icon is imported once its import was put in.** The item of the menu that follows stands beside
the line. -/
theorem imports_of_inserted (identifier : IsIdentifier plan.menuIcon) {middle : SharedFile}
    (first : file.insert (plan.iconEntry layout) = .ok (.inserted, middle))
    (second : middle.insert (plan.menuEntry layout) = .ok (answer, changed)) :
    imports plan.menuIcon changed.toText = true := by
  obtain ⟨margin, -, placed⟩ := exists_linesAt first
  obtain ⟨own, lines⟩ : ∃ own, (plan.iconEntry layout).entry.lines = [own] := ⟨_, rfl⟩
  have imported : imports plan.menuIcon own = true :=
    imports_line identifier (by rw [lines]; exact List.mem_singleton_self own)
  have filled : own ≠ [] := by
    rintro rfl
    exact absurd imported (by simp [imports])
  have there : margin ++ own ∈ changed.lines := by
    refine (sublist_insert second).subset (placed _ ?_)
    rw [Entry.linesAt, lines]
    simp [filled]
  have inside : own <:+: changed.toText :=
    (List.suffix_append margin own).isInfix.trans ((infix_joinWith ['\n'] there).trans
      (List.prefix_append changed.joined _).isInfix)
  exact imports_of_infix inside imported

/-- **The item of a menu brings no import.** It is put between two parts of a file in which it was not
recognised, and an icon is imported afterwards exactly if it was imported by one of these parts. -/
theorem imports_menuEntry (derived : plan.Derived) (braceless : '\x7d' ∉ plan.menuIcon)
    (done : file.insert (plan.menuEntry layout) = .ok (.inserted, changed)) :
    file.contains (plan.menuEntry layout).entry = false ∧ ∃ above block below, block ≠ [] ∧
      file.lines = above ++ below ∧ changed = ⟨above ++ block ++ below, file.ended⟩ ∧
      (∀ line ∈ block, (plan.menuEntry layout).Adds line) ∧
      ∀ icon, imports icon changed.toText =
        (imports icon (unlines above) || imports icon (unlines below)) := by
  rcases insert_menuEntry done with ⟨other, -⟩ |
    ⟨-, absent, index, margin, above, below, blank, headed, first, last, adds, rfl⟩
  · exact absurd rfl other
  refine ⟨absent, file.lines.take index, _, file.lines.drop index, by simp,
    (List.take_append_drop index file.lines).symm, rfl, adds, fun icon => ?_⟩
  have solid : '\x7d' ∉ margin := fun inside => absurd (blank _ inside) (by decide)
  have front : '\x7d' ∉ plan.menuFront := derived.menuFront (by decide) (by decide)
  obtain ⟨top, more, rfl⟩ := List.exists_cons_of_ne_nil headed
  -- The lines begin with a comment.
  obtain ⟨comment, heads⟩ : ∃ comment, top = margin ++ '/' :: comment := by
    have start : Marker.start = '/' :: ("/ modforge:" : Text) := by decide
    rcases first top List.mem_cons_self with rfl | rfl
    · exact ⟨_, by rw [Marker.beginning, start]; rfl⟩
    · exact ⟨_, by rw [Marker.entry, start]; rfl⟩
  refine imports_insertLines blank (congrArg (· :: more) heads) ?_ ?_ ?_
  · exact fun line member => notMem_above_menu derived (by simp) blank (first line member)
  · simp [solid, front, braceless]
  · obtain ⟨-, -, noImport⟩ := markers_menu _ (plan.region_menuEntry layout)
    intro line member
    have initial : ("import" : Text).head? = some 'i' := by decide
    rw [last line member]
    exact fun here => noImport (infix_behind_margin blank initial (by decide) here)

/-- What a navigation is after the item of the menu was added to a text: the text as it is saved, with
lines of the item between two parts of it unless the item was recognised. An icon is imported then
exactly if one of these parts imports it. -/
def ItemAdded (plan : Plan) (layout : Layout) (before after : Text) : Prop :=
  ∃ above block below, (ofText before).lines = above ++ below ∧
    after = toText ⟨above ++ block ++ below, (ofText before).ended⟩ ∧
    (block = [] ↔ (ofText before).contains (plan.menuEntry layout).entry = true) ∧
    (∀ line ∈ block, (plan.menuEntry layout).Adds line) ∧
    ∀ icon, imports icon after = (imports icon (unlines above) || imports icon (unlines below))

open Project in
/-- **What the entries of a navigation do to it.** Where each is placed, the icon is imported afterwards
if the text did not name it, and otherwise the item is added alone. -/
theorem insertAll_navigation (derived : plan.Derived) (identifier : IsIdentifier plan.menuIcon)
    {path : FilePath} {before : Text} {updated : SharedFile} {reports : List EntryReport}
    (done : insertAll path (ofText before) [plan.iconEntry layout, plan.menuEntry layout] =
      .ok (updated, reports)) (placed : ∀ report ∈ reports, report.isPlaced = true) :
    (wordOccursIn plan.menuIcon before = false → imports plan.menuIcon updated.toText = true) ∧
      (wordOccursIn plan.menuIcon before = true → plan.ItemAdded layout before updated.toText) := by
  obtain ⟨answer, middle, later, first, others, rfl⟩ := insertAll_cons_ok.mp done
  obtain ⟨next, last, rest, second, none, rfl⟩ := insertAll_cons_ok.mp others
  obtain ⟨rfl, rfl⟩ := insertAll_nil_ok.mp none
  simp only [List.forall_mem_cons, EntryReport.isPlaced] at placed
  obtain ⟨icon, item, -⟩ := placed
  have recognised := @contains_iconEntry plan layout identifier before
  constructor
  · intro missing
    rw [missing] at recognised
    rcases insert_cases first with ⟨-, -, present⟩ | ⟨rfl, -⟩ | ⟨rfl, -⟩ | ⟨rfl, -⟩
    · exact absurd (recognised.symm.trans present) (by simp)
    · exact absurd icon (by decide)
    · exact imports_of_inserted identifier first second
    · exact imports_of_inserted identifier first second
  · intro named
    rw [named] at recognised
    obtain ⟨-, rfl⟩ : answer = .alreadyPresent ∧ middle = ofText before := by
      have left := @insert_of_contains _ (plan.iconEntry layout) recognised
      rw [left] at first
      simpa [eq_comm] using first
    cases next with
    | anchorNotFound => exact absurd item (by decide)
    | alreadyPresent =>
      rcases insert_cases second with ⟨-, rfl, present⟩ | ⟨other, -⟩ | ⟨other, -⟩ | ⟨other, -⟩
      · refine ⟨(ofText before).lines, [], [], by simp, by simp, by simp [present], by simp,
          fun icon => ?_⟩
        have nothing : imports icon (unlines []) = false := rfl
        rw [imports_toText, nothing, Bool.or_false]
      all_goals exact absurd other (by simp)
    | inserted =>
      obtain ⟨absent, above, block, below, some, lines, rfl, adds, imported⟩ :=
        imports_menuEntry derived (identifier.notMem (by decide)) second
      exact ⟨above, block, below, lines, rfl, by simp [some, absent], adds, imported⟩

end Plan

namespace Project

open FilePath Plan

variable {project : Project} {tree changed : Tree} {location : Location}

/-- **The icon of a menu item is imported.** After an installation that placed the entries of a
navigation with a place of its own, the file imports the icon as a whole word if the text did not hold
it as one. Otherwise no import is added: the file is the text with the item of the menu, and an icon is
imported exactly if it was above the item or below it. -/
theorem icon_imported (options : Options)
    (identifier : IsIdentifier (Plan.ofOptions options).menuIcon) (writes : project.dryRun = false)
    (wellFormed : tree.WellFormed) (begins : tree.node? project.start = some .directory)
    (alone : project.NavigatesAlone (Plan.ofOptions options)) {moment : Moment} {output : Output}
    {report : Report}
    (done : project.install moment (Plan.ofOptions options) output tree = (changed, .ok report))
    (placed : ∀ entry ∈ report.warnings, entry.file ≠ project.layout.navigation)
    (own : project.OwnPlace changed report project.layout.navigation location) {before : Text}
    (there : tree.node? location = some (.file (.text before))) :
    ∃ after, changed.node? location = some (.file (.text after)) ∧
      (wordOccursIn (Plan.ofOptions options).menuIcon before = false →
        imports (Plan.ofOptions options).menuIcon after = true) ∧
      (wordOccursIn (Plan.ofOptions options).menuIcon before = true →
        (Plan.ofOptions options).ItemAdded project.layout before after) := by
  obtain ⟨middle, updated, reports, inserted, among, text⟩ :=
    insertAll_of_install writes wellFormed begins done own there
  rw [alone.filter_eq] at inserted
  refine ⟨updated.toText, text, ?_⟩
  refine insertAll_navigation (derived_ofOptions options) identifier inserted fun entry member => ?_
  have about : (entry.file, entry.key) ∈ reports.map fun entry => (entry.file, entry.key) :=
    List.mem_map.mpr ⟨entry, member, rfl⟩
  rw [map_insertAll inserted] at about
  obtain ⟨registration, -, same⟩ := List.mem_map.mp about
  cases missing : entry.isPlaced with
  | true => rfl
  | false =>
    refine absurd (congrArg Prod.fst same).symm (placed entry ?_)
    exact List.mem_filter.mpr ⟨among entry member, by simp [missing]⟩

/-- Valves with an icon. -/
def homeOptions : Options := { displayName := "Valve", icon := some "Home" }

/-- A navigation with one item, with the lines of a further import and of a further item. -/
def homeMenu (title imported item : Text) : Text :=
  ("import \x7b Box \x7d from 'lucide-react';\n" : Text) ++ imported ++
    "const mainNavItems = [\n" ++ item ++ "    \x7b title: " ++ quote title ++ " \x7d,\n];\n"

/-- The lines of the import. -/
def homeImport : Text :=
  ("// modforge:begin navigation-icons\n// modforge:entry Home\n" : Text) ++
    "import \x7b Home \x7d from 'lucide-react';\n// modforge:end navigation-icons\n"

/-- The lines of the item. -/
def valveItem : Text :=
  ("    // modforge:begin navigation\n    // modforge:entry /valves\n" : Text) ++
    "    \x7b title: 'Valves', href: '/valves', icon: Home \x7d,\n    // modforge:end navigation\n"

/-- Where a navigation lies. -/
def navigationPlace : Location := ["resources", "js", "config", "navigation.ts"]

/-- What an installation of valves reports where only a navigation is there. -/
def homeReport (icon : EntryResult) : Report :=
  { written := []
    entries :=
      [⟨"routes/web.php", "valves", .fileNotFound⟩,
        ⟨"database/seeders/PermissionSeeder.php", "valves", .fileNotFound⟩,
        ⟨"resources/js/config/navigation.ts", "Home", icon⟩,
        ⟨"resources/js/config/navigation.ts", "/valves", .inserted⟩,
        ⟨"database/seeders/DatabaseSeeder.php", "Valve", .fileNotFound⟩] }

/-- Valves get an icon that no title names. -/
theorem icon_imported_valves :
    standardProject.install ⟨2026, 1, 1, 0, 0, 0⟩ (Plan.ofOptions homeOptions) ⟨[], []⟩
        (navigationOnly (homeMenu "Start" [] [])) =
      (navigationOnly (homeMenu "Start" homeImport valveItem), .ok (homeReport .inserted)) ∧
    wordOccursIn "Home" (homeMenu "Start" [] []) = false ∧
    imports "Home" (homeMenu "Start" homeImport valveItem) = true := by
  have done : standardProject.install ⟨2026, 1, 1, 0, 0, 0⟩ (Plan.ofOptions homeOptions) ⟨[], []⟩
        (navigationOnly (homeMenu "Start" [] [])) =
      (navigationOnly (homeMenu "Start" homeImport valveItem), .ok (homeReport .inserted)) := by
    unfold homeOptions
    rw [install_valves rfl]
    unfold standardProject navigationOnly homeMenu homeImport valveItem homeReport valveEntries
    simp (disch := exact rfl) only [Text.toList_literal, -String.reduceToList]
    decide +kernel
  have icon : (Plan.ofOptions homeOptions).menuIcon = ("Home" : Text) := by decide +kernel
  have unnamed : wordOccursIn "Home" (homeMenu "Start" [] []) = false := by
    unfold homeMenu
    simp (disch := exact rfl) only [Text.toList_literal, -String.reduceToList]
    decide +kernel
  have own : standardProject.OwnPlace (navigationOnly (homeMenu "Start" homeImport valveItem))
      (homeReport .inserted) standardProject.layout.navigation navigationPlace := by
    unfold standardProject navigationOnly homeMenu homeImport valveItem homeReport navigationPlace
    simp (disch := exact rfl) only [Text.toList_literal, -String.reduceToList]
    exact ⟨by decide +kernel, by decide +kernel, by decide +kernel, by decide +kernel,
      by decide +kernel⟩
  have alone : standardProject.NavigatesAlone (Plan.ofOptions homeOptions) :=
    navigatesAlone (derived_ofOptions homeOptions) rfl (by decide +kernel)
  obtain ⟨after, now, imported, -⟩ := icon_imported homeOptions
    (by rw [icon]; exact ⟨by decide, by decide +kernel⟩) rfl (by decide +kernel) rfl alone done
    (by decide +kernel) own rfl
  have same : after = homeMenu "Start" homeImport valveItem := by
    have here : (navigationOnly (homeMenu "Start" homeImport valveItem)).node? navigationPlace =
      some (.file (.text (homeMenu "Start" homeImport valveItem))) := rfl
    rw [here] at now
    simpa using now.symm
  rw [icon, same] at imported
  exact ⟨done, unnamed, imported unnamed⟩

/-- A title that is the name of the icon keeps its import away. -/
theorem icon_named_elsewhere :
    IsIdentifier (Plan.ofOptions homeOptions).menuIcon ∧
    standardProject.install ⟨2026, 1, 1, 0, 0, 0⟩ (Plan.ofOptions homeOptions) ⟨[], []⟩
        (navigationOnly (homeMenu "Home" [] [])) =
      (navigationOnly (homeMenu "Home" [] valveItem), .ok (homeReport .alreadyPresent)) ∧
    (∀ entry ∈ (homeReport .alreadyPresent).warnings,
      entry.file ≠ standardProject.layout.navigation) ∧
    imports (Plan.ofOptions homeOptions).menuIcon (homeMenu "Home" [] valveItem) = false := by
  have icon : (Plan.ofOptions homeOptions).menuIcon = ("Home" : Text) := by decide +kernel
  rw [icon]
  have runs : standardProject.install ⟨2026, 1, 1, 0, 0, 0⟩ (Plan.ofOptions homeOptions) ⟨[], []⟩
        (navigationOnly (homeMenu "Home" [] [])) =
      (navigationOnly (homeMenu "Home" [] valveItem), .ok (homeReport .alreadyPresent)) ∧
    imports "Home" (homeMenu "Home" [] valveItem) = false := by
    unfold homeOptions
    rw [install_valves rfl]
    unfold standardProject navigationOnly homeMenu valveItem homeReport valveEntries
    simp (disch := exact rfl) only [Text.toList_literal, -String.reduceToList]
    decide +kernel
  exact ⟨⟨by decide, by decide +kernel⟩, runs.1, by decide +kernel, runs.2⟩

end Project

end Scaffold
