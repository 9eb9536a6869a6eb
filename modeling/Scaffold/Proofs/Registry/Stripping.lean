import Scaffold.Proofs.Registry.Persistence
import Scaffold.Proofs.Registry.Soundness

/-!
# Recognition without markers

An entry that was put in is recognised even where markers are deleted from the file. One of its
lines tells it (`Entry.ToldBy`): it is no marker, and the entry is recognised wherever this line
stands. Once the entry is put in, the line stands clear of markers (`standsClear_of_insert`). It
does so after all that follows, since that lasts, and what stands clear of markers is not deleted
with them (`infix_of_stripped`). Each kind of entry that a plan registers is told by a line of its
own (`Plan.Registers.toldBy`), so no marker is needed to find it again
(`Plan.registered_without_markers`).
-/
namespace Scaffold

open Text

namespace Text

/-- Behind blanks a text of one line belongs to the last row. -/
theorem exists_row_behind {margin line : Text} (blank : ∀ c ∈ margin, isBlank c = true)
    (single : IsOneLine line) : ∃ front, front ++ line ∈ rows (margin ++ line) ∧
      ∀ c ∈ front, isBlank c = true := by
  obtain ⟨above, last, split⟩ := (List.eq_nil_or_concat _).resolve_left (rows_ne_nil margin)
  rw [List.concat_eq_append] at split
  have listed : last ∈ rows margin := by simp [split]
  have whole : '\n' ∉ last ++ line := fun inside =>
    (List.mem_append.mp inside).elim (feed_notMem_of_mem_rows listed) single.1
  refine ⟨last, ?_, fun c inside => blank c ?_⟩
  · rw [rows, splitOn_append_right split, splitOn_of_notMem whole]
    exact List.mem_append_right _ List.mem_cons_self
  · rw [← unlines_rows margin]
    exact (infix_joinWith ['\n'] listed).subset inside

end Text

namespace Marker

variable {text other piece line row : Text} {c : Char}

/-- A marker begins with a slash. -/
theorem isMarker_cons (solid : isBlank c = false) (different : c ≠ '/') (rest : Text) :
    isMarker (c :: rest) = false := by
  rw [Bool.eq_false_iff, ne_eq, isMarker, startsWith, List.isPrefixOf_iff_prefix]
  rintro ⟨behind, same⟩
  have first := head?_trim solid rest
  have slash : start.head? = some '/' := by decide
  rw [← same, List.head?_append, slash, Option.some_or, Option.some.injEq] at first
  exact different first.symm

/-- Blanks in front make no difference. -/
theorem isMarker_append_left {margin : Text} (blank : ∀ c ∈ margin, isBlank c = true)
    (line : Text) : isMarker (margin ++ line) = isMarker line := by
  rw [isMarker, trim_append_left blank, isMarker]

/-- Neither does a blank at the end. -/
theorem isMarker_append_singleton (blank : isBlank c = true) (line : Text) :
    isMarker (line ++ [c]) = isMarker line := by
  rw [isMarker, trim_append_singleton blank, isMarker]

/-- A row of the text that is no marker holds the piece. -/
def StandsClear (piece text : Text) : Prop :=
  ∃ row ∈ rows text, isMarker row = false ∧ piece <:+: row

/-- What stands clear of markers does so wherever the text is carried. -/
theorem lasting_standsClear (single : IsOneLine piece) (filled : piece ≠ []) :
    Lasting (StandsClear piece) := by
  rintro text other carried ⟨row, member, unmarked, inside⟩
  rcases carried row member with rfl | same | ⟨kept, same, rfl⟩
  · exact absurd (List.infix_nil.mp inside) filled
  · exact ⟨row, same, unmarked, inside⟩
  · refine ⟨kept, same, ?_, ?_⟩
    · rwa [isMarker_append_singleton isBlank_return] at unmarked
    · rcases (infix_append_cons_iff single.2 filled).mp inside with here | behind
      · exact here
      · exact absurd (List.infix_nil.mp behind) filled

/-- The other text is the text without some of its markers, which are deleted with their line
endings. -/
def Stripped (text other : Text) : Prop :=
  ∃ kept removed, Weave kept removed (linesWithEndings text) ∧
    (∀ line ∈ removed, isMarker line = true) ∧ other = kept.flatten

/-- What stands clear of markers is not deleted with them. -/
theorem infix_of_stripped (filled : piece ≠ []) (clear : StandsClear piece text)
    (stripped : Stripped text other) : piece <:+: other := by
  obtain ⟨row, member, unmarked, inside⟩ := clear
  obtain ⟨kept, removed, weave, markers, rfl⟩ := stripped
  have stays : ∀ line ∈ linesWithEndings text, isMarker line = false → row <:+: line →
      piece <:+: kept.flatten := by
    intro line listed plain part
    rcases List.mem_append.mp (weave.perm.mem_iff.mp listed) with here | gone
    · exact (inside.trans part).trans (List.infix_of_mem_flatten here)
    · exact absurd (plain.symm.trans (markers line gone)) Bool.false_ne_true
  have some : row ≠ [] := by
    rintro rfl
    exact filled (List.infix_nil.mp inside)
  rcases mem_linesWithEndings member some with whole | ended
  · exact stays row whole unmarked List.infix_rfl
  · exact stays _ ended (by rwa [isMarker_append_singleton (by decide)])
      (List.prefix_append _ _).isInfix

end Marker

open Marker

/-- A line tells an entry: it is one line and no marker, and the entry is recognised wherever it
stands. -/
structure Entry.ToldBy (entry : Entry) (line : Text) : Prop where
  /-- It is a line of the entry. -/
  member : line ∈ entry.lines
  /-- It is one line. -/
  single : IsOneLine line
  /-- It begins like no marker. -/
  begins : ∃ c rest, line = c :: rest ∧ isBlank c = false ∧ c ≠ '/'
  /-- Any text with this line shows the entry. -/
  shows : ∀ before behind, entry.presence.foundIn (before ++ (line ++ behind)) = true

namespace Entry.ToldBy

variable {entry : Entry} {line : Text}

/-- There is something in the line. -/
theorem filled (told : entry.ToldBy line) : line ≠ [] := by
  obtain ⟨c, rest, rfl, -⟩ := told.begins
  exact List.cons_ne_nil c rest

/-- The line is no marker. -/
theorem unmarked (told : entry.ToldBy line) : isMarker line = false := by
  obtain ⟨c, rest, rfl, solid, different⟩ := told.begins
  exact isMarker_cons solid different rest

/-- A line that holds the text of the presence tells the entry. -/
theorem of_occurs {piece : Text} (recognised : entry.presence = .occurs piece)
    (member : line ∈ entry.lines) (single : IsOneLine line)
    (begins : ∃ c rest, line = c :: rest ∧ isBlank c = false ∧ c ≠ '/')
    (inside : piece <:+: line) : entry.ToldBy line := by
  refine ⟨member, single, begins, fun before behind => ?_⟩
  rw [recognised]
  refine occursIn_iff.mpr (inside.trans ⟨before, behind, ?_⟩)
  rw [List.append_assoc]

end Entry.ToldBy

namespace SharedFile

variable {file changed : SharedFile} {registration : Registration} {line other : Text}

/-- The line that tells an entry stands clear of markers once the entry was put in. -/
theorem standsClear_of_insert (told : registration.entry.ToldBy line)
    (done : file.insert registration = .ok (.inserted, changed)) :
    StandsClear line changed.joined := by
  obtain ⟨margin, blank, placed⟩ := exists_linesAt done
  have here : margin ++ line ∈ changed.lines :=
    placed _ (List.mem_map.mpr ⟨line, List.mem_cons_of_mem _ told.member, by simp [told.filled]⟩)
  obtain ⟨front, listed, spaces⟩ := exists_row_behind blank told.single
  refine ⟨front ++ line, ?_, ?_, (List.suffix_append front line).isInfix⟩
  · rw [joined, rows_unlines (List.ne_nil_of_mem here)]
    exact List.mem_flatMap.mpr ⟨_, here, listed⟩
  · rw [isMarker_append_left spaces, told.unmarked]

/-- An entry that is told by its line is recognised when markers are deleted from the file. -/
theorem insert_of_stripped (told : registration.entry.ToldBy line)
    (presence : IsOneLine registration.entry.presence.text)
    (done : file.insert registration = .ok (.inserted, changed)) (later : List Step)
    (stripped : Stripped (changed.run later).toText other) :
    (ofText other).insert registration = .ok (.alreadyPresent, ofText other) := by
  have lasting : Lasting (StandsClear line) := lasting_standsClear told.single told.filled
  have saved : StandsClear line (changed.run later).toText :=
    lasting_toText lasting (lasting_run lasting later (standsClear_of_insert told done))
  obtain ⟨before, behind, rfl⟩ := infix_of_stripped told.filled saved stripped
  have found := told.shows before behind
  rw [← List.append_assoc] at found
  apply insert_of_contains
  rw [contains_eq, Entry.recognisedIn, Bool.or_eq_true]
  exact .inr ((Entry.rowWise_presence presence).of_carried (carried_lines _) found)

end SharedFile

namespace Plan

open SharedFile

variable {plan : Plan} {layout : Layout} {registration : Registration}

/-- The import of an icon is told by its line: the icon stands between blanks there. -/
theorem toldBy_iconEntry (identifier : IsIdentifier plan.menuIcon) :
    ∃ line, (plan.iconEntry layout).entry.ToldBy line := by
  refine ⟨_, List.mem_singleton_self _,
    (lined_iconEntry layout identifier.isOneLine).lines _ (List.mem_singleton_self _),
    ⟨'i', _, rfl, by decide, by decide⟩, fun before behind => ?_⟩
  have split : before ++ (("import " ++ Code.record [plan.menuIcon] ++ " from 'lucide-react';") ++
      behind) = (before ++ ("import \x7b " : Text)) ++
        (plan.menuIcon ++ (' ' :: '\x7d' :: (" from 'lucide-react';" ++ behind))) := by
    have front : ("import \x7b " : Text) = "import " ++ ['\x7b', ' '] := by decide
    rw [front]
    simp only [Code.record, commaList, joinWith, braced, List.append_assoc, List.cons_append,
      List.nil_append]
  have last : ("import \x7b " : Text).getLast? = some ' ' := by decide
  show wordOccursIn plan.menuIcon _ = true
  rw [split]
  refine identifier.wordOccursIn_between ?_ (show isIdentifierPart ' ' = false by decide)
  rw [List.getLast?_append, last, Option.some_or]
  decide

namespace Derived

/-- The routes of the pages are told by their line. -/
theorem toldBy_resourceRoute (derived : plan.Derived) :
    ∃ line, (plan.resourceRoute layout).entry.ToldBy line := by
  obtain ⟨line, member, inside⟩ := plan.resourceRoute_shows layout
  refine ⟨line, .of_occurs rfl member
    ((derived.lined_resourceRoute layout).lines line member) ?_ inside⟩
  obtain rfl := List.mem_singleton.mp member
  exact ⟨'R', _, rfl, by decide, by decide⟩

/-- The route of a cascade is told by its line. -/
theorem toldBy_cascadeRoute (derived : plan.Derived) {dependency : Dependency}
    (listed : dependency ∈ plan.dependencies) :
    ∃ line, (plan.cascadeRoute layout dependency).entry.ToldBy line := by
  obtain ⟨line, member, inside⟩ := plan.cascadeRoute_shows layout dependency
  refine ⟨line, .of_occurs rfl member
    ((derived.lined_cascadeRoute layout listed).lines line member) ?_ inside⟩
  obtain rfl := List.mem_singleton.mp member
  exact ⟨'R', _, rfl, by decide, by decide⟩

/-- The permissions are told by the first of them. -/
theorem toldBy_permissionEntry (derived : plan.Derived) :
    ∃ line, (plan.permissionEntry layout).entry.ToldBy line := by
  obtain ⟨line, member, inside⟩ := plan.permissionEntry_shows layout
  refine ⟨line, .of_occurs rfl member
    ((derived.lined_permissionEntry layout).lines line member) ?_ inside⟩
  obtain ⟨key, -, rfl⟩ := List.mem_map.mp member
  exact ⟨'\'', _, rfl, by decide, by decide⟩

/-- The item of a menu is told by its line. -/
theorem toldBy_menuEntry (derived : plan.Derived) (single : IsOneLine plan.menuIcon) :
    ∃ line, (plan.menuEntry layout).entry.ToldBy line := by
  obtain ⟨line, member, inside⟩ := plan.menuEntry_shows layout
  refine ⟨line, .of_occurs rfl member
    ((derived.lined_menuEntry layout single).lines line member) ?_ inside⟩
  obtain rfl := List.mem_singleton.mp member
  exact ⟨'\x7b', _, rfl, by decide, by decide⟩

/-- The making of records is told by its line: the name of the model stands behind a backslash
there. -/
theorem toldBy_seederEntry (derived : plan.Derived) :
    ∃ line, (plan.seederEntry layout).entry.ToldBy line := by
  refine ⟨_, List.mem_singleton_self _,
    (derived.lined_seederEntry layout).lines _ (List.mem_singleton_self _),
    ⟨'\\', _, rfl, by decide, by decide⟩, fun before behind => ?_⟩
  have split : before ++ (('\\' :: plan.modelClass ++ "::factory()->count(10)->create();") ++
      behind) = (before ++ '\\' :: (plan.namespaceName ++ "\\Models")) ++ '\\' ::
        ((plan.names.model ++ "::factory(") ++ ')' :: ("->count(10)->create();" ++ behind)) := by
    have inner : ("\\Models\\" : Text) = "\\Models" ++ ['\\'] := by decide
    have outer : ("::factory()->count(10)->create();" : Text) =
        "::factory(" ++ ')' :: ("->count(10)->create();" : Text) := by decide
    rw [Plan.modelClass, inner, outer]
    simp only [List.append_assoc, List.cons_append, List.nil_append]
  have absent : ∀ {c : Char}, isPlain c = false → c ∉ ("::factory(" : Text) →
      c ∉ plan.names.model ++ ("::factory(" : Text) := fun odd other inside =>
    (List.mem_append.mp inside).elim (derived.plain.names.model.notMem odd) other
  have slash : '\\' ∉ plan.names.model ++ ("::factory(" : Text) := absent (by decide) (by decide)
  have close : ')' ∉ plan.names.model ++ ("::factory(" : Text) := absent (by decide) (by decide)
  show wordOccursIn (plan.names.model ++ ("::factory(" : Text)) _ = true
  rw [split, wordOccursIn_append_cons slash (by decide) (before ++ _),
    wordOccursIn_append_cons close (by decide), wordOccursIn_self, Bool.true_or, Bool.or_true]

/-- An accessor is told by its heading. -/
theorem toldBy_accessor (derived : plan.Derived) (relationship : Relationship) (file : FilePath) :
    ∃ line, ((plan.accessor relationship).registration file).entry.ToldBy line := by
  have method := derived.plain_accessorMethod relationship
  refine ⟨_, .of_occurs rfl List.mem_cons_self ?_ ⟨'p', _, rfl, by decide, by decide⟩
    (plan.accessor_shows relationship)⟩
  simp only [isOneLine_append, method.isOneLine]
  decide

end Derived

/-- **Every entry of a plan is told by one of its lines**, and its presence is one line, if the icon
is an identifier. -/
theorem Registers.toldBy (derived : plan.Derived) (identifier : IsIdentifier plan.menuIcon)
    (made : plan.Registers layout registration) :
    IsOneLine registration.entry.presence.text ∧ ∃ line, registration.entry.ToldBy line := by
  rcases made with shared | ⟨accessor, listed, candidate, -, rfl⟩
  · simp only [sharedEntries, List.cons_append, List.mem_cons, List.mem_append, List.mem_map,
      List.not_mem_nil, or_false] at shared
    rcases shared with rfl | ⟨dependency, listed, rfl⟩ | rfl | rfl | rfl | rfl
    · exact ⟨(derived.sound_resourceRoute layout).presence, derived.toldBy_resourceRoute⟩
    · exact ⟨(derived.sound_cascadeRoute layout listed).presence, derived.toldBy_cascadeRoute listed⟩
    · exact ⟨(derived.sound_permissionEntry layout).presence, derived.toldBy_permissionEntry⟩
    · exact ⟨identifier.isOneLine, toldBy_iconEntry identifier⟩
    · exact ⟨derived.presence_menuEntry layout, derived.toldBy_menuEntry identifier.isOneLine⟩
    · exact ⟨(derived.sound_seederEntry layout).presence, derived.toldBy_seederEntry⟩
  · obtain ⟨relationship, member, rfl⟩ := List.mem_map.mp listed
    exact ⟨derived.presence_accessor relationship, derived.toldBy_accessor relationship candidate⟩

/-- **No marker is needed to find an entry again.** An entry of a plan whose icon is made of
characters of identifiers is put into a file, whatever steps come before it and after it. When any
markers are deleted from the file as it is saved and the rest is read again, the entry is found
there. -/
theorem registered_without_markers (options : Options)
    (icon : ∀ c ∈ (ofOptions options).menuIcon, isIdentifierPart c = true) (layout : Layout)
    (registration : Registration) (made : (ofOptions options).Registers layout registration)
    (content : Text) (earlier later : List Step) (changed : SharedFile)
    (done : ((ofText content).run earlier).insert registration = .ok (.inserted, changed))
    (other : Text) (stripped : Stripped (changed.run later).toText other) :
    (ofText other).insert registration = .ok (.alreadyPresent, ofText other) := by
  obtain ⟨presence, line, told⟩ := made.toldBy (derived_ofOptions options)
    ⟨(tight_menuIcon options).ne_nil, icon⟩
  exact insert_of_stripped told presence done later stripped

/-- The import of an icon is found again without its marker and the beginning of its region. -/
theorem registered_without_markers_icon :
    let plan := ofOptions { displayName := "Valve" }
    let changed : SharedFile :=
      { lines := ["import \x7b Home \x7d from 'lucide-react';", "// modforge:begin navigation-icons",
          "// modforge:entry LayoutGrid", "import \x7b LayoutGrid \x7d from 'lucide-react';",
          "// modforge:end navigation-icons"]
        ended := true }
    let other : Text := "import \x7b Home \x7d from 'lucide-react';\n" ++
      "import \x7b LayoutGrid \x7d from 'lucide-react';\n// modforge:end navigation-icons\n"
    plan.menuIcon = "LayoutGrid" ∧
    (ofText "import \x7b Home \x7d from 'lucide-react';\x0d\n").insert (plan.iconEntry .standard) =
      .ok (.inserted, changed) ∧
    Stripped changed.toText other ∧
    (ofText other).insert (plan.iconEntry .standard) = .ok (.alreadyPresent, ofText other) := by
  intro plan changed other
  have icon : plan.menuIcon = ("LayoutGrid" : Text) := by decide +kernel
  have done : (ofText "import \x7b Home \x7d from 'lucide-react';\x0d\n").insert
      (plan.iconEntry .standard) = .ok (.inserted, changed) := by
    unfold iconEntry
    rw [icon]
    unfold changed Anchor.icons Layout.standard
    simp (disch := exact rfl) only [Text.toList_literal, -String.reduceToList]
    decide +kernel
  have lines : linesWithEndings changed.toText =
      (["import \x7b Home \x7d from 'lucide-react';\n", "// modforge:begin navigation-icons\n",
        "// modforge:entry LayoutGrid\n", "import \x7b LayoutGrid \x7d from 'lucide-react';\n",
        "// modforge:end navigation-icons\n"] : List Text) := by
    unfold changed
    simp (disch := exact rfl) only [Text.toList_literal, -String.reduceToList]
    decide +kernel
  have stripped : Stripped changed.toText other := by
    refine ⟨["import \x7b Home \x7d from 'lucide-react';\n",
        "import \x7b LayoutGrid \x7d from 'lucide-react';\n", "// modforge:end navigation-icons\n"],
      ["// modforge:begin navigation-icons\n", "// modforge:entry LayoutGrid\n"], ?_, ?_, ?_⟩
    · rw [lines]
      exact .keep _ (.add _ (.add _ (.keep _ (.keep _ .nil))))
    · simp (disch := exact rfl) only [Text.toList_literal, -String.reduceToList]
      decide +kernel
    · unfold other
      simp (disch := exact rfl) only [Text.toList_literal, -String.reduceToList]
      decide +kernel
  refine ⟨icon, done, stripped, ?_⟩
  exact registered_without_markers _ (by rw [icon]; decide) .standard _
    (.inl (by simp [plan, sharedEntries])) _ [] [] changed done other stripped

end Plan

end Scaffold
