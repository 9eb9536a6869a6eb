import Scaffold.Proofs.Registry.Apart

/-!
# A region is created once

Whatever markers a file holds to begin with, orphaned or repeated ones included, a run of insertions
and reloads creates each region at most once. A region is created only where no line that begins it
stands above one that ends it. From then on there are such lines, and nothing that is added or saved
takes them away, so the next entry goes between them (`Evolves.run`). Only a creation adds lines that
begin or end a region: an entry brings none of them (`Marker.Clear.linesAt`), and reading
a file anew leaves its lines the same up to blanks around them (`visible_reload`).
-/
namespace Scaffold

namespace Text

/-- The lines that are not blank, without the blanks around them. -/
def visible (lines : List Text) : List Text := (lines.map trim).filter (· ≠ [])

/-- Lines behind others. -/
theorem visible_append (lines more : List Text) :
    visible (lines ++ more) = visible lines ++ visible more := by
  rw [visible, List.map_append, List.filter_append]
  rfl

/-- The lines that rows make show what the rows show. -/
theorem visible_linesOfRows (all : List Text) : visible (linesOfRows all) = visible all := by
  induction all with
  | nil => rfl
  | cons row rest ih =>
    cases rest with
    | nil =>
      by_cases empty : row = []
      · rw [empty]
        decide
      · simp [linesOfRows, empty]
    | cons next more =>
      have same : trim (withoutReturn row) = trim row := by
        rcases withoutReturn_cases row with whole | longer
        · exact congrArg trim whole.symm
        · have trimmed := congrArg trim longer
          rw [trim_append_singleton isBlank_return] at trimmed
          exact trimmed.symm
      have front : ∀ line lines, visible (line :: lines) = visible [line] ++ visible lines :=
        fun line lines => visible_append [line] lines
      rw [linesOfRows, front, front row, ih]
      simp [visible, same]

/-- A text that begins with a visible one keeps it when blanks at the end are taken off. -/
theorem exists_trimEnd_append {front : Text} {c : Char} (last : front.getLast? = some c)
    (solid : isBlank c = false) (rest : Text) : ∃ kept, trimEnd (front ++ rest) = front ++ kept := by
  obtain ⟨start, rfl⟩ := List.getLast?_eq_some_iff.mp last
  have whole : (start ++ [c]).reverse.dropWhile isBlank = (start ++ [c]).reverse := by
    simp [solid]
  rw [trimEnd, dropEndWhile, List.reverse_append, List.dropWhile_append, whole]
  split
  · exact ⟨[], by simp⟩
  · exact ⟨(rest.reverse.dropWhile isBlank).reverse, by
      rw [List.reverse_append, List.reverse_reverse]⟩

end Text

open Text

namespace Marker

/-- The marker of an entry begins with its word when it is trimmed. -/
theorem exists_trim_entry (key : Text) :
    ∃ rest, trim (entry key) = start ++ ("entry" : Text) ++ rest := by
  have first : (start ++ ("entry" : Text)).head? = some '/' ∧
      (start ++ ("entry" : Text)).getLast? = some 'y' := by decide
  obtain ⟨kept, same⟩ := exists_trimEnd_append first.2 (by decide) (' ' :: key)
  refine ⟨kept, ?_⟩
  obtain ⟨word, split⟩ := List.head?_eq_some_iff.mp first.1
  have solid : trimStart (start ++ ("entry" : Text) ++ ' ' :: key) =
      start ++ ("entry" : Text) ++ ' ' :: key := by
    rw [split, List.cons_append, trimStart, List.dropWhile_cons_of_neg (by decide)]
  rw [entry_eq_word, trim, solid, same]

/-- What begins or ends a region is no blank line. -/
theorem ne_nil (name : Text) : beginning name ≠ [] ∧ ending name ≠ [] := by
  have filled : start ≠ [] := by decide
  simp [beginning, ending, filled]

/-- No region is begun by what ends one. -/
theorem beginning_ne (name other : Text) : beginning name ≠ ending other := by
  have words : ("begin " : Text).head? = some 'b' ∧ ("end " : Text).head? = some 'e' := by
    decide
  intro same
  rw [beginning, ending, List.append_assoc, List.append_assoc] at same
  have first := congrArg List.head? (List.append_cancel_left same)
  rw [List.head?_append, List.head?_append, words.1, words.2] at first
  simp at first

/-- A region is begun by its own marker alone, and ended by its own. -/
theorem inj {name other : Text} : (beginning name = beginning other ↔ name = other) ∧
    (ending name = ending other ↔ name = other) :=
  ⟨⟨List.append_cancel_left, congrArg beginning⟩, ⟨List.append_cancel_left, congrArg ending⟩⟩

/-- None of the lines begins a region or ends it. -/
def Clear (name : Text) (lines : List Text) : Prop :=
  ∀ line ∈ lines, trim line ≠ beginning name ∧ trim line ≠ ending name

/-- Entries of such lines bring none, wherever they stand. -/
theorem Clear.linesAt {name margin : Text} {entry : Entry} (clear : Clear name entry.lines)
    (blank : ∀ c ∈ margin, isBlank c = true) : Clear name (entry.linesAt margin) := by
  intro line member
  obtain ⟨piece, listed, rfl⟩ := List.mem_map.mp member
  split
  · have none : trim [] = [] := by decide
    rw [none]
    exact ⟨(ne_nil name).1.symm, (ne_nil name).2.symm⟩
  · rw [trim_append_left blank]
    rcases List.mem_cons.mp listed with rfl | own
    · obtain ⟨rest, same⟩ := exists_trim_entry entry.key
      rw [same]
      exact ⟨(ne_entry_word name rest).1.symm, (ne_entry_word name rest).2.symm⟩
    · exact clear piece own

end Marker

namespace SharedFile

/-- The markers of a region have no blanks at their ends if its name does not end with one. -/
theorem tidy_of_tight {name : Text} (named : name ≠ [])
    (tight : ∀ c, name.getLast? = some c → isBlank c = false) : Tidy name := by
  have own : ∀ {word : Text}, word.head? = some '/' → trim (word ++ name) = word ++ name := by
    intro word slash
    apply trim_eq_self
    · intro c first
      rw [List.head?_append, slash, Option.some_or, Option.some.injEq] at first
      rw [← first]
      decide
    · intro c last
      rw [List.getLast?_append, List.getLast?_eq_some_getLast named, Option.some_or] at last
      exact tight c (by rw [List.getLast?_eq_some_getLast named, last])
  have words : (Marker.start ++ ("begin " : Text)).head? = some '/' ∧
      (Marker.start ++ ("end " : Text)).head? = some '/' := by decide
  exact ⟨own words.1, own words.2⟩

end SharedFile

/-- A registration of lines whose region has a name that does not end with a blank, and whose entry
has no markers among its lines. -/
structure Registration.Guarded (registration : Registration) : Prop where
  /-- The region has a name. -/
  named : registration.region ≠ []
  /-- No blank ends it. -/
  tight : ∀ c, registration.region.getLast? = some c → isBlank c = false
  /-- All that is added is lines. -/
  lined : registration.Lined
  /-- No line of the entry is a marker. -/
  plain : ∀ line ∈ registration.entry.lines, Marker.isMarker line = false

namespace Registration.Guarded

variable {registration : Registration}

/-- The markers of its region have no blanks at their ends. -/
theorem tidy (guarded : registration.Guarded) : SharedFile.Tidy registration.region :=
  SharedFile.tidy_of_tight guarded.named guarded.tight

/-- The lines of its entry begin no region and end none. -/
theorem clear (guarded : registration.Guarded) (name : Text) :
    Marker.Clear name registration.entry.lines := by
  intro line member
  have other := guarded.plain line member
  constructor <;> intro same
  · rw [Marker.beginning, List.append_assoc] at same
    rw [SharedFile.isMarker_of_trim same] at other
    exact Bool.noConfusion other
  · rw [Marker.ending, List.append_assoc] at same
    rw [SharedFile.isMarker_of_trim same] at other
    exact Bool.noConfusion other

end Registration.Guarded

namespace SharedFile

variable {file changed later : SharedFile} {registration : Registration} {answer : Insertion}
  {name marker : Text}

/-- How many lines of a file are a marker, up to blanks around it. -/
def markers (file : SharedFile) (marker : Text) : Nat :=
  file.lines.countP fun line => trim line = marker

/-- They are among the visible lines. -/
theorem markers_eq (filled : marker ≠ []) : file.markers marker = (visible file.lines).count marker := by
  rw [markers, visible, List.count_filter (by simpa using filled), List.count, List.countP_map]
  refine congrArg (List.countP · file.lines) (funext fun line => ?_)
  rw [Bool.eq_iff_iff]
  simp

/-- A file has a region exactly if its visible lines have its markers in their order. -/
theorem hasRegion_iff : file.HasRegion name ↔
    [Marker.beginning name, Marker.ending name].Sublist (visible file.lines) := by
  have filled := Marker.ne_nil name
  constructor
  · rintro ⟨first, last, both, opens, closes⟩
    have shown := (both.map trim).filter (· ≠ [])
    simpa [visible, opens, closes, filled] using shown
  · intro both
    obtain ⟨lines, kept, same⟩ := List.sublist_map_iff.mp (both.trans List.filter_sublist)
    obtain ⟨first, rest, rfl, opens, more⟩ := List.map_eq_cons_iff.mp same.symm
    obtain ⟨last, none, rfl, closes, empty⟩ := List.map_eq_cons_iff.mp more
    obtain rfl : none = [] := List.map_eq_nil_iff.mp empty
    exact ⟨first, last, kept, opens, closes⟩

/-- Saving and reading leaves the visible lines. -/
theorem visible_reload (whole : file.Legal (· ≠ '\n')) :
    visible file.reload.lines = visible file.lines := by
  have single : file.lines.flatMap rows = file.lines :=
    flatMap_rows_of_notMem fun line member inside => whole line member _ inside rfl
  have read : file.reload.lines = linesOfRows (rows file.toText) := lines_eq_rows _
  rw [read, visible_linesOfRows]
  by_cases none : file.lines = []
  · rw [toText, joined, none]
    cases file.ended <;> decide
  · rw [rows_toText none, single, visible_append]
    cases file.ended <;> simp [visible, show trim [] = [] by decide]

/-- Where the lines of a region are, if there is one. -/
theorem exists_split_of_region? {region : Region} (found : file.region? name = some region) :
    ∃ above first inner last below, file.lines = above ++ first :: inner ++ last :: below ∧
      region.last = (above ++ first :: inner).length ∧ trim first = Marker.beginning name ∧
      trim last = Marker.ending name := by
  unfold region? at found
  cases begins : indexOf? file.lines (Marker.beginning name) with
  | none => simp [begins] at found
  | some start =>
    cases ends : indexOf? (file.lines.drop start) (Marker.ending name) with
    | none => simp [begins, ends] at found
    | some length =>
      simp only [begins, ends, bind, Option.bind, Option.some.injEq] at found
      subst found
      obtain ⟨low, opens, -⟩ := List.findIdx?_eq_some_iff_getElem.mp begins
      obtain ⟨close, closes, -⟩ := List.findIdx?_eq_some_iff_getElem.mp ends
      have opens : trim file.lines[start] = Marker.beginning name := by simpa using opens
      have closes : trim (file.lines.drop start)[length] = Marker.ending name := by
        simpa using closes
      have behind : file.lines.drop start = file.lines[start] :: file.lines.drop (start + 1) :=
        List.drop_eq_getElem_cons low
      cases length with
      | zero =>
        have first : (file.lines.drop start)[0] = file.lines[start] := by simp
        rw [first, opens] at closes
        exact absurd closes (beginning_ne_ending name)
      | succ length =>
        have cut := List.take_append_drop length (file.lines.drop (start + 1))
        have stop : length < (file.lines.drop (start + 1)).length := by
          rw [behind, List.length_cons] at close
          omega
        refine ⟨file.lines.take start, file.lines[start],
          (file.lines.drop (start + 1)).take length, (file.lines.drop (start + 1))[length],
          (file.lines.drop (start + 1)).drop (length + 1), ?_, ?_, opens, ?_⟩
        · have last : (file.lines.drop (start + 1)).drop length =
              (file.lines.drop (start + 1))[length] ::
                (file.lines.drop (start + 1)).drop (length + 1) := List.drop_eq_getElem_cons stop
          rw [List.append_assoc, List.cons_append, ← last, cut, ← behind, List.take_append_drop]
        · rw [List.length_append, List.length_cons, List.length_take_of_le (Nat.le_of_lt low),
            List.length_take_of_le (Nat.le_of_lt stop)]
        · rw [← closes]
          congr 1
          simp [Nat.add_comm, Nat.add_left_comm]

/-- From one file to the other a region stays if there is one, and it has as many markers as before
unless it is created: then there was none, there is one, and each of its markers is there once
more. -/
structure Evolves (name : Text) (file later : SharedFile) : Prop where
  /-- The region stays. -/
  kept : file.HasRegion name → later.HasRegion name
  /-- Its markers stay, or it is created. -/
  grown : ∃ created, later.markers (Marker.beginning name) =
      file.markers (Marker.beginning name) + created ∧
    later.markers (Marker.ending name) = file.markers (Marker.ending name) + created ∧
    (created = 0 ∨ created = 1 ∧ ¬file.HasRegion name ∧ later.HasRegion name)

/-- A file is as it was. -/
theorem Evolves.refl (name : Text) (file : SharedFile) : Evolves name file file :=
  ⟨id, 0, rfl, rfl, .inl rfl⟩

/-- One after the other: a region that was created is not created again. -/
theorem Evolves.trans (first : Evolves name file changed) (second : Evolves name changed later) :
    Evolves name file later := by
  obtain ⟨early, begun, ended, before⟩ := first.grown
  obtain ⟨late, more, others, after⟩ := second.grown
  refine ⟨second.kept ∘ first.kept, early + late, by omega, by omega, ?_⟩
  rcases before with rfl | ⟨rfl, missing, there⟩
  · rcases after with rfl | ⟨rfl, absent, there⟩
    · exact .inl rfl
    · exact .inr ⟨rfl, absent ∘ first.kept, there⟩
  · rcases after with rfl | ⟨rfl, absent, -⟩
    · exact .inr ⟨rfl, missing, second.kept there⟩
    · exact absurd there absent

/-- Lines that are put in bring their markers. -/
theorem markers_insertLines (file : SharedFile) (index : Nat) (lines : List Text) (marker : Text) :
    (file.insertLines index lines).markers marker =
      file.markers marker + lines.countP fun line => trim line = marker := by
  have whole := congrArg (List.countP fun line => trim line = marker)
    (List.take_append_drop index file.lines)
  rw [List.countP_append] at whole
  rw [markers, markers, insertLines, List.countP_append, List.countP_append]
  omega

/-- The lines of an entry are not counted among the markers of a region. -/
theorem countP_linesAt (guarded : registration.Guarded) {margin : Text}
    (blank : ∀ c ∈ margin, isBlank c = true) (name : Text) :
    (registration.entry.linesAt margin).countP (fun line => trim line = Marker.beginning name) = 0 ∧
      (registration.entry.linesAt margin).countP (fun line => trim line = Marker.ending name) = 0 := by
  constructor <;> rw [List.countP_eq_zero] <;> intro line member
  · simpa using ((guarded.clear name).linesAt blank line member).1
  · simpa using ((guarded.clear name).linesAt blank line member).2

/-- A new region has each of its markers once, and no others. -/
theorem countP_newRegion (guarded : registration.Guarded) {margin : Text}
    (blank : ∀ c ∈ margin, isBlank c = true) (name : Text) :
    let created := if registration.region = name then 1 else 0
    (newRegion registration margin).countP (fun line => trim line = Marker.beginning name) =
        created ∧
      (newRegion registration margin).countP (fun line => trim line = Marker.ending name) =
        created := by
  intro created
  obtain ⟨opens, closes⟩ := guarded.tidy
  obtain ⟨noBeginning, noEnding⟩ := countP_linesAt guarded blank name
  have begun : trim (margin ++ Marker.beginning registration.region) =
      Marker.beginning registration.region := by rw [trim_append_left blank, opens]
  have ended : trim (margin ++ Marker.ending registration.region) =
      Marker.ending registration.region := by rw [trim_append_left blank, closes]
  have apart := (Marker.beginning_ne name registration.region).symm
  constructor
  · simp [newRegion, List.countP_cons, List.countP_append, begun, ended, Marker.inj.1, apart,
      noBeginning, created]
  · simp [newRegion, List.countP_cons, List.countP_append, begun, ended, Marker.inj.2,
      Marker.beginning_ne, noEnding, created]

/-- **An insertion creates a region only where there is none.** -/
theorem Evolves.insert (guarded : registration.Guarded)
    (done : file.insert registration = .ok (answer, changed)) (name : Text) :
    Evolves name file changed := by
  have kept : file.HasRegion name → changed.HasRegion name := fun has =>
    has.mono (sublist_insert done)
  rcases insert_cases done with ⟨-, rfl, -⟩ | ⟨-, rfl, -⟩ | ⟨-, -, region, found, rfl⟩ |
    ⟨rfl, -, missing, site, found, rfl⟩
  · exact .refl name _
  · exact .refl name _
  · obtain ⟨begun, ended⟩ := countP_linesAt guarded (isBlank_of_mem_region found) name
    refine ⟨kept, 0, ?_, ?_, .inl rfl⟩
    · rw [markers_insertLines, begun]
    · rw [markers_insertLines, ended]
  · obtain ⟨begun, ended⟩ := countP_newRegion guarded (isBlank_of_mem_site found) name
    refine ⟨kept, if registration.region = name then 1 else 0, ?_, ?_, ?_⟩
    · rw [markers_insertLines, begun]
    · rw [markers_insertLines, ended]
    · by_cases own : registration.region = name
      · rw [if_pos own]
        subst own
        exact .inr ⟨rfl, region?_eq_none_iff.mp missing, hasRegion_of_inserted guarded.tidy done⟩
      · exact .inl (if_neg own)

/-- Saving and reading creates nothing. -/
theorem Evolves.reload (whole : file.Legal (· ≠ '\n')) (name : Text) :
    Evolves name file file.reload := by
  have filled := Marker.ne_nil name
  refine ⟨fun has => ?_, 0, ?_, ?_, .inl rfl⟩
  · rwa [hasRegion_iff, visible_reload whole, ← hasRegion_iff]
  · rw [markers_eq filled.1, markers_eq filled.1, visible_reload whole, Nat.add_zero]
  · rw [markers_eq filled.2, markers_eq filled.2, visible_reload whole, Nat.add_zero]

/-- Every registration that is added on the way is guarded. -/
def GuardedSteps (steps : List Step) : Prop :=
  ∀ registration, .add registration ∈ steps → registration.Guarded

/-- A step leaves no line feed in a line. -/
theorem legal_next {step : Step} (guarded : GuardedSteps [step]) (whole : file.Legal (· ≠ '\n')) :
    (file.next step).Legal (· ≠ '\n') := by
  cases step with
  | reload =>
    rintro line member c inside rfl
    exact feed_notMem_of_mem_lines member inside
  | add registration =>
    have lined := (guarded registration (by simp)).lined
    cases done : file.insert registration with
    | error fault => simpa [next, done] using whole
    | ok result =>
      rw [next_add done]
      exact legal_insert (by decide) (by decide)
        (fun line member c inside => (lined.legal line member c inside).1) whole done

/-- A step creates a region only where there is none. -/
theorem Evolves.next {step : Step} (guarded : GuardedSteps [step])
    (whole : file.Legal (· ≠ '\n')) (name : Text) : Evolves name file (file.next step) := by
  cases step with
  | reload => exact .reload whole name
  | add registration =>
    cases done : file.insert registration with
    | error fault => simpa [SharedFile.next, done] using Evolves.refl name file
    | ok result =>
      rw [next_add done]
      exact .insert (guarded registration (by simp)) done name

/-- **A run creates a region at most once.** -/
theorem Evolves.run {steps : List Step} (guarded : GuardedSteps steps)
    (whole : file.Legal (· ≠ '\n')) (name : Text) : Evolves name file (file.run steps) := by
  induction steps generalizing file with
  | nil => exact .refl name file
  | cons step rest ih =>
    have first : GuardedSteps [step] := fun registration member =>
      guarded registration (List.mem_cons.mpr (.inl (List.mem_singleton.mp member)))
    have later : GuardedSteps rest := fun registration member =>
      guarded registration (List.mem_cons_of_mem step member)
    exact (Evolves.next first whole name).trans (ih later (legal_next first whole))

/-- An entry that was added stands in its region: above a line that ends the region, below one that
begins it. -/
theorem exists_split_of_inserted (guarded : registration.Guarded)
    (done : file.insert registration = .ok (.inserted, changed)) :
    ∃ above first inner margin last below, changed.lines =
        above ++ first :: inner ++ registration.entry.linesAt margin ++ last :: below ∧
      trim first = Marker.beginning registration.region ∧
      trim last = Marker.ending registration.region ∧ ∀ c ∈ margin, isBlank c = true := by
  obtain ⟨opens, closes⟩ := guarded.tidy
  rcases insert_cases done with ⟨none, -⟩ | ⟨none, -⟩ | ⟨-, -, region, found, rfl⟩ |
    ⟨-, -, -, site, found, rfl⟩
  · exact absurd none (by simp)
  · exact absurd none (by simp)
  · obtain ⟨above, first, inner, last, below, lines, stop, begun, ended⟩ :=
      exists_split_of_region? found
    refine ⟨above, first, inner, region.margin, last, below, ?_, begun, ended,
      isBlank_of_mem_region found⟩
    rw [insertLines, lines, stop, List.take_left, List.drop_left]
  · have blank := isBlank_of_mem_site found
    refine ⟨file.lines.take site.line, site.margin ++ Marker.beginning registration.region, [],
      site.margin, site.margin ++ Marker.ending registration.region, file.lines.drop site.line, ?_,
      ?_, ?_, blank⟩
    · simp [insertLines, newRegion]
    · rw [trim_append_left blank, opens]
    · rw [trim_append_left blank, closes]

/-- **A region is created at most once, also in a damaged file.** Whatever a content holds, a run of
insertions and reloads adds at most one line that begins a region and at most one that ends it, of
each as many. And the lines of an entry that is answered as inserted stand right above a line that
ends its region and below one that begins it. -/
theorem region_created_once (content : Text) (steps : List Step) (guarded : GuardedSteps steps) :
    (∀ name, ∃ created ≤ 1,
      ((ofText content).run steps).markers (Marker.beginning name) =
        (ofText content).markers (Marker.beginning name) + created ∧
      ((ofText content).run steps).markers (Marker.ending name) =
        (ofText content).markers (Marker.ending name) + created) ∧
    ∀ earlier registration later changed, steps = earlier ++ .add registration :: later →
      ((ofText content).run earlier).insert registration = .ok (.inserted, changed) →
      ∃ above first inner margin last below, changed.lines =
          above ++ first :: inner ++ registration.entry.linesAt margin ++ last :: below ∧
        trim first = Marker.beginning registration.region ∧
        trim last = Marker.ending registration.region ∧ ∀ c ∈ margin, isBlank c = true := by
  constructor
  · intro name
    have whole : (ofText content).Legal (· ≠ '\n') := by
      rintro line member c inside rfl
      exact feed_notMem_of_mem_lines member inside
    obtain ⟨created, begun, ended, once⟩ := (Evolves.run guarded whole name).grown
    exact ⟨created, by omega, begun, ended⟩
  · rintro earlier registration later changed rfl done
    exact exists_split_of_inserted (guarded registration (by simp)) done

/-- A file in which an end of the region stands above its beginning gets a region of its own, and the
next entry goes there. -/
theorem region_created_once_damaged :
    let content : Text := "// modforge:end routes\nrequire __DIR__ . '/auth.php';\n" ++
      "// modforge:begin routes\n"
    let route (key line : Text) : Registration :=
      { file := "routes/web.php", region := "routes", anchor := .routes
        entry := { key, lines := [line], presence := .occurs line } }
    let steps : List Step := [.add (route "valves" "Valve;"), .reload, .add (route "lemmas" "Lemma;")]
    let damaged := ofText content
    (∃ created ≤ 1, (damaged.run steps).markers (Marker.beginning "routes") =
        damaged.markers (Marker.beginning "routes") + created ∧
      (damaged.run steps).markers (Marker.ending "routes") =
        damaged.markers (Marker.ending "routes") + created) ∧
    ∃ above first inner margin last below, (damaged.run steps).lines =
        above ++ first :: inner ++ (route "lemmas" "Lemma;").entry.linesAt margin ++ last :: below ∧
      trim first = Marker.beginning "routes" ∧ trim last = Marker.ending "routes" ∧
      ∀ c ∈ margin, isBlank c = true := by
  intro content route steps damaged
  have guardedRoute : ∀ {key line : Text}, IsOneLine key → IsOneLine line →
      Marker.isMarker line = false → (route key line).Guarded := by
    intro key line oneKey oneLine other
    have named : ("routes" : Text) ≠ [] := by decide
    have single : IsOneLine ("routes" : Text) := by constructor <;> decide
    refine ⟨named, fun c last => ?_, ⟨single, oneKey, ?_⟩, ?_⟩
    · have ending : ("routes" : Text).getLast? = some 's' := by decide
      rw [show (route key line).region = "routes" from rfl, ending, Option.some.injEq] at last
      rw [← last]
      decide
    · rintro own member
      rwa [List.mem_singleton.mp member]
    · rintro own member
      rwa [List.mem_singleton.mp member]
  have guarded : GuardedSteps steps := by
    intro registration member
    simp only [steps, List.mem_cons, Step.add.injEq, reduceCtorEq, List.not_mem_nil, or_false,
      false_or] at member
    rcases member with rfl | rfl
    · exact guardedRoute (by constructor <;> decide) (by constructor <;> decide) (by decide)
    · exact guardedRoute (by constructor <;> decide) (by constructor <;> decide) (by decide)
  have last : (damaged.run [.add (route "valves" "Valve;"), .reload]).insert
      (route "lemmas" "Lemma;") = .ok (.inserted, damaged.run steps) := by
    unfold damaged steps route content
    simp (disch := exact rfl) only [Text.toList_literal, -String.reduceToList]
    decide +kernel
  have result := region_created_once content steps guarded
  exact ⟨result.1 "routes", result.2 [.add (route "valves" "Valve;"), .reload]
    (route "lemmas" "Lemma;") [] (damaged.run steps) rfl last⟩

end SharedFile

end Scaffold
