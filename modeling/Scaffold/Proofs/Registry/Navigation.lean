import Scaffold.Proofs.Registry.Apart
import Scaffold.Proofs.Registry.Icons
import Scaffold.Proofs.Registry.Soundness

/-!
# The icon and the item of a menu

The import of the icon and the item of a menu go into one file, the icon first. Where the icon finds
no place, it finds none behind the item either (`settled_iconEntry_menu`): the line of the item shows
the icon, or the icon is made of the characters in front of it in that line, and then the item
brings no match of the anchor of the icons (`occurs_icons_of_insertLines`). So both are at rest after
their insertion (`atRest_navigation`).
-/
namespace Scaffold

namespace Text

variable {word before after piece more : Text}

/-- A word that also stands in front of itself is made of the characters in between. -/
theorem subset_of_prefix_append {front : Text} (filled : front ≠ [])
    (begins : word <+: front ++ word) : word ⊆ front := by
  induction length : word.length using Nat.strongRecOn generalizing word with
  | _ count ih =>
    subst length
    rcases Nat.le_total word.length front.length with short | long
    · exact (List.prefix_of_prefix_length_le begins (List.prefix_append _ _) short).subset
    · obtain ⟨rest, rfl⟩ :=
        List.prefix_of_prefix_length_le (List.prefix_append front word) begins long
      have positive := List.length_pos_iff.mpr filled
      have shorter := ih rest.length (by rw [List.length_append]; omega)
        ((List.prefix_append_right_inj front).mp begins) rfl
      exact List.append_subset.mpr ⟨List.Subset.refl _, shorter⟩

/-- A word between two others that leave it free is found, or made of the characters in front. -/
theorem wordOccursFrom_or_subset (filled : word ≠ [])
    (behind : after.head?.any isIdentifierPart = false) :
    ∀ (before : Text) (covered : Nat) (previous : Option Char), covered ≤ before.length →
      (previous.toList ++ before).getLast?.any isIdentifierPart = false →
      wordOccursFrom word covered previous (before ++ word ++ after) = true ∨ word ⊆ before := by
  intro before
  induction before with
  | nil =>
    intro covered previous within front
    obtain rfl : covered = 0 := by simpa using within
    obtain ⟨c, rest, rfl⟩ := List.exists_cons_of_ne_nil filled
    have free : previous.any isIdentifierPart = false := by
      cases previous with
      | none => rfl
      | some d => simpa using front
    refine .inl ?_
    simp [wordOccursFrom, standsFree, freeEnd, free, behind]
  | cons d before ih =>
    intro covered previous within front
    have next : ((some d).toList ++ before).getLast?.any isIdentifierPart = false := by
      rw [List.getLast?_append] at front
      simpa [List.getLast?_cons] using front
    have step : ∀ covered, covered ≤ before.length →
        wordOccursFrom word covered (some d) (before ++ word ++ after) = true ∨
          word ⊆ d :: before := fun covered fits =>
      (ih covered (some d) fits next).imp_right fun inside => List.subset_cons_of_subset d inside
    cases covered with
    | succ more => exact step more (by simpa using within)
    | zero =>
      simp only [List.cons_append, wordOccursFrom]
      split
      · rename_i begins
        rw [Bool.or_eq_true]
        by_cases fits : word.length - 1 ≤ before.length
        · exact (step _ fits).imp_left .inr
        · -- The word found here reaches into the one behind, so the word stands in front of itself.
          refine .inr (subset_of_prefix_append (List.cons_ne_nil d before) ?_)
          refine List.prefix_of_prefix_length_le (List.isPrefixOf_iff_prefix.mp begins)
            (List.prefix_append (d :: before ++ word) after) ?_
          simp only [List.length_append, List.length_cons]
          omega
      · exact step 0 (Nat.zero_le _)

/-- The same for the search from the front. -/
theorem wordOccursIn_or_subset (filled : word ≠ [])
    (front : before.getLast?.any isIdentifierPart = false)
    (behind : after.head?.any isIdentifierPart = false) :
    wordOccursIn word (before ++ word ++ after) = true ∨ word ⊆ before := by
  rcases wordOccursFrom_or_subset filled behind before 0 none (Nat.zero_le _) (by simpa using front)
    with found | inside
  · exact .inl (by rw [wordOccursIn, found, Bool.or_true])
  · exact .inr inside

end Text

open Text

namespace SharedFile

open Anchor

variable {file changed : SharedFile} {registration : Registration} {name : Text}

/-- Lines put in make no region whose markers they are not. -/
theorem HasRegion.of_insertLines {index : Nat} {added : List Text}
    (other : ∀ line ∈ added, trim line ≠ Marker.beginning name ∧ trim line ≠ Marker.ending name)
    (has : (file.insertLines index added).HasRegion name) : file.HasRegion name := by
  obtain ⟨first, last, both, begins, ends⟩ := has
  let isOwn : Text → Bool := fun line =>
    trim line = Marker.beginning name ∨ trim line = Marker.ending name
  have none : added.filter isOwn = [] := by
    rw [List.filter_eq_nil_iff]
    intro line member
    simp [isOwn, other line member]
  have own : [first, last].filter isOwn = [first, last] := by simp [isOwn, begins, ends]
  have kept := both.filter isOwn
  rw [own, insertLines, List.filter_append, List.filter_append, none, List.append_nil,
    ← List.filter_append, List.take_append_drop] at kept
  exact ⟨first, last, kept.trans List.filter_sublist, begins, ends⟩

/-- A registration whose entry is recognised by its own lines is settled by its insertion. -/
theorem settled_insert {answer : Insertion} (evident : registration.entry.Evident)
    (done : file.insert registration = .ok (answer, changed)) : changed.Settled registration := by
  by_cases success : answer = .anchorNotFound
  · rcases insert_cases done with ⟨other, -⟩ | ⟨-, rfl, -, missing, nowhere⟩ | ⟨other, -⟩ |
      ⟨other, -⟩
    · exact absurd (success.symm.trans other) (by simp)
    · exact .inr ⟨missing, nowhere⟩
    · exact absurd (success.symm.trans other) (by simp)
    · exact absurd (success.symm.trans other) (by simp)
  · exact .inl (contains_of_insert done success evident)

/-- An entry is recognised by a word in a line of a file. -/
theorem contains_of_word {entry : Entry} {word line : Text}
    (recognised : entry.presence = .word word) (single : IsOneLine word)
    (member : line ∈ file.lines) (found : wordOccursIn word line = true) :
    file.contains entry = true := by
  have rowWise := rowWise_wordOccursIn single
  obtain ⟨row, inside, here⟩ := (rowWise.iff_rows line).mp found
  have inFile : row ∈ rows file.joined := by
    rw [joined, rows_unlines (List.ne_nil_of_mem member)]
    exact List.mem_flatMap.mpr ⟨line, member, inside⟩
  have there : entry.presence.foundIn file.joined = true := by
    rw [recognised]
    exact (rowWise.iff_rows _).mpr ⟨row, inFile, here⟩
  simp [contains, there]

end SharedFile

namespace Plan

open SharedFile

variable {plan : Plan} {layout : Layout} {file changed : SharedFile} {answer : Insertion}

/-- The item of a menu in its file: markers, the line with the icon, and perhaps a marker behind
it. -/
theorem insert_menuEntry (done : file.insert (plan.menuEntry layout) = .ok (answer, changed)) :
    (answer ≠ .inserted ∧ changed = file) ∨ answer = .inserted ∧
      file.contains (plan.menuEntry layout).entry = false ∧
      ∃ index margin above below, (∀ c ∈ margin, isBlank c = true) ∧ above ≠ [] ∧
        (∀ line ∈ above, line = margin ++ Marker.beginning (plan.menuEntry layout).region ∨
          line = margin ++ Marker.entry plan.listAddress) ∧
        (∀ line ∈ below, line = margin ++ Marker.ending (plan.menuEntry layout).region) ∧
        (∀ line ∈ above ++ (margin ++ plan.menuFront ++ plan.menuIcon ++ [' '] ++ ['\x7d', ',']) ::
          below, (plan.menuEntry layout).Adds line) ∧
        changed = file.insertLines index (above ++
          (margin ++ plan.menuFront ++ plan.menuIcon ++ [' '] ++ ['\x7d', ',']) :: below) := by
  have lines : ∀ margin : Text, (plan.menuEntry layout).entry.linesAt margin =
      [margin ++ Marker.entry plan.listAddress,
        margin ++ plan.menuFront ++ plan.menuIcon ++ [' '] ++ ['\x7d', ',']] := by
    intro margin
    have comma : ("," : Text) = [','] := by decide
    have key : (plan.menuEntry layout).entry.key = plan.listAddress := rfl
    rw [Entry.linesAt, lines_menuEntry, key, comma]
    simp [Marker.entry_ne_nil]
  rcases insert_cases done with ⟨rfl, same, -⟩ | ⟨rfl, same, -⟩ | ⟨rfl, absent, region, found, rfl⟩ |
    ⟨rfl, absent, -, site, found, rfl⟩
  · exact .inl ⟨by simp, same⟩
  · exact .inl ⟨by simp, same⟩
  · have blank := isBlank_of_mem_region found
    refine .inr ⟨rfl, absent, region.last, region.margin,
      [region.margin ++ Marker.entry plan.listAddress], [], blank, by simp, by simp, by simp, ?_, ?_⟩
    · intro line member
      exact ⟨region.margin, blank, mem_newRegion (by rw [lines]; exact member)⟩
    · rw [lines]
      rfl
  · have blank := isBlank_of_mem_site found
    refine .inr ⟨rfl, absent, site.line, site.margin,
      [site.margin ++ Marker.beginning (plan.menuEntry layout).region,
        site.margin ++ Marker.entry plan.listAddress],
      [site.margin ++ Marker.ending (plan.menuEntry layout).region], blank, by simp, by simp, by simp,
      ?_, ?_⟩
    · intro line member
      exact ⟨site.margin, blank, by rw [newRegion, lines]; exact member⟩
    · rw [newRegion, lines]
      rfl

/-- The markers of the regions of the menus are none of the icons, hold no semicolon, no closing brace
and no import. -/
theorem markers_menu : ∀ region ∈ (["navigation", "setup-navigation"] : List Text),
    (∀ marker ∈ [Marker.beginning region, Marker.ending region],
      marker ≠ Marker.beginning "navigation-icons" ∧ marker ≠ Marker.ending "navigation-icons") ∧
    (∀ c ∈ [';', '\x7d'], c ∉ Marker.beginning region) ∧
    ¬("import" : Text) <:+: Marker.ending region := by
  decide +kernel

/-- In the markers above the item of a menu there is neither a semicolon nor a closing brace. -/
theorem notMem_above_menu (derived : plan.Derived) {c : Char} (odd : c ∈ [';', '\x7d'])
    {margin line : Text} (blank : ∀ c ∈ margin, isBlank c = true)
    (above : line = margin ++ Marker.beginning (plan.menuEntry layout).region ∨
      line = margin ++ Marker.entry plan.listAddress) : c ∉ line := by
  have apart : isBlank c = false ∧ isPlain c = false ∧ c ≠ '/' ∧
      c ∉ Marker.start ++ ("entry " : Text) := by
    have all : ∀ c ∈ [';', '\x7d'], isBlank c = false ∧ isPlain c = false ∧ c ≠ '/' ∧
        c ∉ Marker.start ++ ("entry " : Text) := by decide
    exact all c odd
  have solid : c ∉ margin := fun inside => Bool.false_ne_true (apart.1.symm.trans (blank c inside))
  rcases above with rfl | rfl
  · obtain ⟨-, noBeginning, -⟩ := markers_menu _ (plan.region_menuEntry layout)
    exact fun inside => (List.mem_append.mp inside).elim solid (noBeginning c odd)
  · have address : c ∉ plan.listAddress := fun inside => (List.mem_cons.mp inside).elim apart.2.2.1
      (derived.plain.names.route.notMem apart.2.1)
    rw [Marker.entry_eq]
    simp only [List.mem_append, not_or] at apart ⊢
    exact ⟨solid, apart.2.2.2, address⟩

/-- In front of the icon stands a space. -/
theorem getLast?_menuFront (plan : Plan) : plan.menuFront.getLast? = some ' ' := by
  have last : ("icon: " : Text).getLast? = some ' ' := by decide
  have split : plan.menuFront = ('\x7b' :: ' ' :: (("title: " ++ quote plan.names.labelPlural : Text) ++
      ", " ++ ("href: " ++ quote plan.listAddress ++ ", "))) ++ ("icon: " : Text) := by
    simp only [menuFront, commaList, joinWith, List.cons_append, List.append_assoc]
  rw [split, List.getLast?_append, last, Option.some_or]

/-- **Where the icon finds no place, it finds none behind the item of the menu.** -/
theorem settled_iconEntry_menu (wirable : plan.Wirable)
    (settled : file.Settled (plan.iconEntry layout))
    (done : file.insert (plan.menuEntry layout) = .ok (answer, changed)) :
    changed.Settled (plan.iconEntry layout) := by
  rcases settled with present | ⟨missing, nowhere⟩
  · exact .inl (contains_insert done wirable.iconLine present)
  rcases insert_menuEntry done with ⟨-, rfl⟩ |
    ⟨-, -, index, margin, above, below, blank, -, first, last, -, rfl⟩
  · exact .inr ⟨missing, nowhere⟩
  have solid : ∀ {c : Char}, isBlank c = false → c ∉ margin := fun odd inside =>
    Bool.false_ne_true (odd.symm.trans (blank _ inside))
  have behind : ∀ {c : Char} {text : Text}, isBlank c = false → c ∉ text → c ∉ margin ++ text :=
    fun odd absent inside => (List.mem_append.mp inside).elim (solid odd) absent
  have front : (margin ++ plan.menuFront).getLast?.any isIdentifierPart = false := by
    rw [List.getLast?_append, getLast?_menuFront, Option.some_or]
    decide
  rcases wordOccursIn_or_subset wirable.icon.ne_nil front
    (by decide : [' ', '\x7d', ','].head?.any isIdentifierPart = false) with found | inside
  · exact .inl (contains_of_word rfl wirable.iconLine (by simp [insertLines]) found)
  -- The icon is made of the characters in front of it, none of which is a semicolon.
  have noFront : ';' ∉ plan.menuFront := wirable.menuFront (by decide) (by decide)
  have noIcon : ';' ∉ plan.menuIcon := fun there => behind (by decide) noFront (inside there)
  have address : ∀ c ∈ plan.listAddress, isBlank c = false := by
    intro c member
    rcases List.mem_cons.mp member with rfl | member
    · decide
    · exact wirable.plain.names.route.isBlank_eq c member
  obtain ⟨others, -, noImport⟩ := markers_menu _ (plan.region_menuEntry layout)
  have tidy := (plan.tidy_menuEntry layout).1
  refine .inr ⟨?_, ?_⟩
  · rw [region?_eq_none_iff] at missing ⊢
    refine fun has => missing (has.of_insertLines fun line member => ?_)
    rcases List.mem_append.mp member with early | late
    · rcases first line early with rfl | rfl
      · rw [trim_append_left blank, tidy.1]
        exact others _ List.mem_cons_self
      · have keyed : plan.listAddress ≠ [] := List.cons_ne_nil _ _
        have whole := Marker.trim_entry keyed fun c ending =>
          address c (List.mem_of_getLast? ending)
        rw [trim_append_left blank, whole, Marker.entry_eq_word]
        exact ⟨(Marker.ne_entry_word _ _).1.symm, (Marker.ne_entry_word _ _).2.symm⟩
    · rcases List.mem_cons.mp late with rfl | late
      · have item : ∀ rest, trim (margin ++ plan.menuFront ++ plan.menuIcon ++ [' '] ++
            ['\x7d', ',']) ≠ Marker.start ++ rest := by
          intro rest
          simp only [List.append_assoc]
          exact Marker.trim_ne (by decide) (by decide) blank _ rest
        rw [Marker.beginning, Marker.ending, List.append_assoc Marker.start,
          List.append_assoc Marker.start]
        exact ⟨item _, item _⟩
      · rw [last line late, trim_append_left blank, tidy.2]
        exact others _ (List.mem_cons_of_mem _ List.mem_cons_self)
  · have own : (plan.iconEntry layout).anchor = Anchor.icons := rfl
    rw [own, Anchor.steady_icons.firm.locate_eq_none_iff] at nowhere ⊢
    refine fun occurs => nowhere (occurs_icons_of_insertLines ?_ ?_ ?_ occurs)
    · exact fun line member =>
        notMem_above_menu wirable.toDerived List.mem_cons_self blank (first line member)
    · simp [solid (by decide : isBlank ';' = false), noFront, noIcon]
    · intro line member
      rw [last line member]
      have first : ("import" : Text).head? = some 'i' := by decide
      exact fun here => noImport (infix_behind_margin blank first (by decide) here)

open Project in
/-- **The icon and the item of the menu are at rest after their insertion.** -/
theorem atRest_navigation (wirable : plan.Wirable) {path : FilePath} {before : Text}
    (clean : '\x0d' ∉ before) {updated : SharedFile} {reports : List EntryReport}
    (done : insertAll path (ofText before) [plan.iconEntry layout, plan.menuEntry layout] =
      .ok (updated, reports)) :
    AtRest updated.toText [plan.iconEntry layout, plan.menuEntry layout] := by
  have icon := wirable.sound_iconEntry layout
  have menu := wirable.sound_menuEntry layout
  have anchored : ∀ registration ∈ [plan.iconEntry layout, plan.menuEntry layout],
      plan.Registers layout registration := by
    simp [Registers, sharedEntries]
  by_cases filled : before = []
  · subst filled
    have nothing := insertAll_empty
      (fun registration member => Anchor.locate_feed _ (anchored registration member).anchor_mem)
      done
    rw [nothing]
    exact ⟨by decide, fun registration member =>
      settled_feed (anchored registration member).anchor_mem⟩
  · have lined : ∀ registration ∈ [plan.iconEntry layout, plan.menuEntry layout],
        registration.Lined := by
      simp [lined_iconEntry layout wirable.iconLine, wirable.lined_menuEntry layout wirable.iconLine]
    have same : ofText updated.toText = updated :=
      (stable_insertAll (stable_ofText filled clean) lined done).reload_eq
    refine ⟨by rw [same], ?_⟩
    rw [same]
    obtain ⟨answer, middle, later, first, others, -⟩ := insertAll_cons_ok.mp done
    obtain ⟨next, last, rest, second, none, -⟩ := insertAll_cons_ok.mp others
    obtain ⟨rfl, -⟩ := insertAll_nil_ok.mp none
    simp only [List.forall_mem_cons]
    exact ⟨settled_iconEntry_menu wirable (settled_insert icon.evident first) second,
      settled_insert menu.evident second, by simp⟩

end Plan

end Scaffold
