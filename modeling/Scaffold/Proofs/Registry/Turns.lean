import Scaffold.Proofs.Registry.Creation

/-!
# Entries put into a fresh region

What several insertions make of a file that holds no marker of their region, exactly: one block of
lines at the place of the anchor, and nothing where every entry is there already. The first entry
that is not there creates the region at the anchor, the others go through the markers to its end and
take their margin from the line that begins it. Both ways lead to the same block
(`insertAll_withRegion`). An entry is there already if its marker or its text is found in the file
with the block so far (`Shows`), so the answers are told turn by turn (`turns`).

The anchor is looked for in the file as it is saved. A text with a carriage return in front of a line
feed can have it in another place (`fresh_region_elsewhere`).
-/
namespace Scaffold

open Text

namespace SharedFile

/-- The marker of an entry is a line of a file, up to blanks around it, or the text by which it is
recognised is found. -/
def Shows (file : SharedFile) (entry : Entry) : Prop :=
  (∃ line ∈ Text.lines file.joined, trim line = Marker.entry entry.key) ∨
    entry.presence.foundIn file.joined = true

/-- That is when an entry is left alone. -/
theorem contains_iff_shows {file : SharedFile} {entry : Entry} :
    file.contains entry = true ↔ file.Shows entry := by
  simp [contains, Shows]

/-- Whether an entry shows can be computed. -/
instance (file : SharedFile) (entry : Entry) : Decidable (file.Shows entry) :=
  decidable_of_iff _ contains_iff_shows

/-- A file with a region of some entries at a place. -/
def withRegion (file : SharedFile) (site : Site) (name : Text) (entries : List Entry) : SharedFile :=
  file.insertLines site.line (regionLines name site.margin entries)

/-- The entries of registrations with their answers, each at its turn: it shows in the file with the
region so far, or it goes to the end of the region. -/
def turns (file : SharedFile) (site : Site) (name : Text) :
    List Entry → List Registration → List (Entry × Insertion)
  | _, [] => []
  | placed, registration :: rest =>
    if (file.withRegion site name placed).Shows registration.entry then
      (registration.entry, .alreadyPresent) :: turns file site name placed rest
    else
      (registration.entry, .inserted) ::
        turns file site name (placed ++ [registration.entry]) rest

/-- The entries that were put in. -/
def inserted (answers : List (Entry × Insertion)) : List Entry :=
  (answers.filter (·.2 = .inserted)).map (·.1)

variable {file : SharedFile} {site : Site} {name : Text} {anchor : Anchor} {placed : List Entry}
  {registration : Registration}

/-- A file without entries in the region is the file. -/
theorem withRegion_nil : file.withRegion site name [] = file := by
  cases file
  simp [withRegion, insertLines, regionLines]

/-- A file without lines that begin a region has no such region. -/
theorem region?_of_clear (clear : Marker.Clear name file.lines) : file.region? name = none := by
  rw [region?_eq_none_iff]
  rintro ⟨first, last, both, begins, -⟩
  exact (clear first (both.subset List.mem_cons_self)).1 begins

/-- **One turn.** An entry that does not show goes to the end of the region, which is created for the
first one. -/
theorem insert_withRegion (tidy : Tidy name) (clear : Marker.Clear name file.lines)
    (found : anchor.locate file.toText = .ok (some site))
    (uniform : registration.region = name ∧ registration.anchor = anchor)
    (plain : ∀ entry ∈ placed, Marker.Clear name entry.lines)
    (absent : ¬(file.withRegion site name placed).Shows registration.entry) :
    (file.withRegion site name placed).insert registration =
      .ok (.inserted, file.withRegion site name (placed ++ [registration.entry])) := by
  obtain ⟨rfl, rfl⟩ := uniform
  have absent : (file.withRegion site registration.region placed).contains registration.entry =
      false := by
    rw [Bool.eq_false_iff]
    exact fun there => absent (contains_iff_shows.mp there)
  by_cases first : placed = []
  · subst first
    rw [withRegion_nil] at absent ⊢
    rw [insert, absent, region?_of_clear clear, found]
    simp [withRegion, newRegion_eq]
  · have blank := isBlank_of_mem_site found
    refine insert_regionLines tidy blank first ?_ ?_ rfl absent
    · exact fun line member => (clear line (List.mem_of_mem_take member)).1
    · exact fun entry member line inside => ((plain entry member).linesAt blank line inside).2

end SharedFile

namespace Project

open SharedFile

variable {path : FilePath} {file : SharedFile} {site : Site} {name : Text} {anchor : Anchor}
  {placed : List Entry} {registrations : List Registration}

/-- The reports of answers. -/
def reportsOf (path : FilePath) (answers : List (Entry × Insertion)) : List EntryReport :=
  answers.map fun (entry, answer) => ⟨path, entry.key, resultOf answer⟩

/-- **All turns.** The entries that do not show when it is their turn go to the end of the region, in
their order. -/
theorem insertAll_withRegion (tidy : Tidy name) (clear : Marker.Clear name file.lines)
    (found : anchor.locate file.toText = .ok (some site))
    (uniform : ∀ registration ∈ registrations,
      registration.region = name ∧ registration.anchor = anchor)
    (plain : ∀ registration ∈ registrations, Marker.Clear name registration.entry.lines)
    (before : ∀ entry ∈ placed, Marker.Clear name entry.lines) :
    insertAll path (file.withRegion site name placed) registrations =
      .ok (file.withRegion site name
          (placed ++ inserted (turns file site name placed registrations)),
        reportsOf path (turns file site name placed registrations)) := by
  induction registrations generalizing placed with
  | nil => simp [insertAll, turns, inserted, reportsOf]
  | cons registration rest ih =>
    have later := fun {placed : List Entry} => @ih placed
      (fun other member => uniform other (List.mem_cons_of_mem _ member))
      (fun other member => plain other (List.mem_cons_of_mem _ member))
    rw [turns, insertAll_cons_ok]
    split
    · rename_i there
      exact ⟨.alreadyPresent, _, reportsOf path (turns file site name placed rest),
        insert_of_contains (contains_iff_shows.mpr there),
        by simpa [inserted] using later before, rfl⟩
    · rename_i absent
      have first := insert_withRegion tidy clear found (uniform _ List.mem_cons_self) before absent
      have grown : ∀ entry ∈ placed ++ [registration.entry], Marker.Clear name entry.lines := by
        intro entry member
        rcases List.mem_append.mp member with old | new
        · exact before entry old
        · rw [List.mem_singleton.mp new]
          exact plain registration List.mem_cons_self
      exact ⟨.inserted, _,
        reportsOf path (turns file site name (placed ++ [registration.entry]) rest), first,
        by simpa [inserted] using later grown, rfl⟩

/-- **What several insertions into a fresh region make of a file.** If the content has no marker of
the region and the anchor has a place in it as it is saved, every insertion succeeds. The lines are
those of the content with one block put in at the place, if any entry is put in: the marker that
begins the region, each entry that did not show at its turn with its marker, in their order, and the
marker that ends the region, all but empty lines behind the margin of the place. -/
theorem fresh_region_filled (path : FilePath) (content name : Text) (anchor : Anchor) (site : Site)
    (registrations : List Registration) (named : name ≠ [])
    (tight : ∀ c, name.getLast? = some c → isBlank c = false)
    (clear : Marker.Clear name (Text.lines content))
    (found : anchor.locate (ofText content).toText = .ok (some site))
    (uniform : ∀ registration ∈ registrations,
      registration.region = name ∧ registration.anchor = anchor)
    (plain : ∀ registration ∈ registrations, Marker.Clear name registration.entry.lines) :
    let answers := turns (ofText content) site name [] registrations
    insertAll path (ofText content) registrations = .ok ({ ofText content with
        lines := (Text.lines content).take site.line ++
          regionLines name site.margin (inserted answers) ++ (Text.lines content).drop site.line },
      reportsOf path answers) := by
  intro answers
  have filled := @insertAll_withRegion path (ofText content) site name anchor [] registrations
    (tidy_of_tight named tight) clear found uniform plain (by simp)
  rw [withRegion_nil, List.nil_append] at filled
  exact filled

/-- Routes at an indented anchor: one is written by hand below, and one is given twice. -/
theorem fresh_region_filled_routes :
    let route (key line : Text) : Registration :=
      { file := "routes/web.php", region := "routes", anchor := .routes
        entry := { key, lines := [line], presence := .occurs line } }
    let registrations := [route "valves" "Valve;", route "lemmas" "Lemma;", route "valves" "Other;",
      route "proofs" "Proof;"]
    let content : Text := "<?php\n  require __DIR__ . '/auth.php';\nLemma;\n"
    insertAll "routes/web.php" (ofText content) registrations = .ok ({ ofText content with
        lines := ["<?php", "  // modforge:begin routes", "  // modforge:entry valves", "  Valve;",
          "  // modforge:entry proofs", "  Proof;", "  // modforge:end routes",
          "  require __DIR__ . '/auth.php';", "Lemma;"] },
      [⟨"routes/web.php", "valves", .inserted⟩, ⟨"routes/web.php", "lemmas", .alreadyPresent⟩,
        ⟨"routes/web.php", "valves", .alreadyPresent⟩, ⟨"routes/web.php", "proofs", .inserted⟩]) := by
  intro route registrations content
  have last : ("routes" : Text).getLast? = some 's' := by decide
  obtain ⟨clear, located, uniform, plain⟩ : Marker.Clear "routes" (Text.lines content) ∧
      Anchor.routes.locate (ofText content).toText = .ok (some ⟨1, "  "⟩) ∧
      (∀ registration ∈ registrations,
        registration.region = "routes" ∧ registration.anchor = .routes) ∧
      ∀ registration ∈ registrations, Marker.Clear "routes" registration.entry.lines := by
    unfold registrations route content Marker.Clear Anchor.routes
    simp (disch := exact rfl) only [Text.toList_literal, -String.reduceToList]
    decide +kernel
  have filled := fresh_region_filled "routes/web.php" content "routes" .routes ⟨1, "  "⟩
    registrations (by decide)
    (fun c ending => by
      rw [last, Option.some.injEq] at ending
      rw [← ending]
      decide)
    clear located uniform plain
  have answers : turns (ofText content) ⟨1, "  "⟩ "routes" [] registrations =
      [((route "valves" "Valve;").entry, .inserted),
        ((route "lemmas" "Lemma;").entry, .alreadyPresent),
        ((route "valves" "Other;").entry, .alreadyPresent),
        ((route "proofs" "Proof;").entry, .inserted)] := by
    unfold registrations route content
    simp (disch := exact rfl) only [Text.toList_literal, -String.reduceToList]
    decide +kernel
  rw [answers] at filled
  refine filled.trans ?_
  unfold route content
  simp (disch := exact rfl) only [Text.toList_literal, -String.reduceToList]
  decide +kernel

/-- Where a carriage return stands in front of a line feed, the place of an anchor in the content can
be another one than in the content as it is saved, and the region goes to the latter: above the
second class here and not above the first. -/
theorem fresh_region_elsewhere :
    let content : Text := "\x7d\n\x7d\x0d\n"
    let accessor : Registration :=
      { file := "app/Models/Lemma.php", region := "relations", anchor := .classEnd
        entry := { key := "proofs", lines := ["Proof;"], presence := .occurs "Proof;" } }
    Marker.Clear "relations" (Text.lines content) ∧
    Anchor.classEnd.locate content = .ok (some ⟨0, "    "⟩) ∧
    (ofText content).insert accessor = .ok (.inserted,
      (ofText content).withRegion ⟨1, "    "⟩ "relations" [accessor.entry]) ∧
    (ofText content).withRegion ⟨1, "    "⟩ "relations" [accessor.entry] ≠
      (ofText content).withRegion ⟨0, "    "⟩ "relations" [accessor.entry] := by
  unfold Marker.Clear
  decide +kernel

end Project

end Scaffold
