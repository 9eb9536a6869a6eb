import Scaffold.Proofs.Registry.Saving
import Scaffold.Proofs.Text.Span
import Scaffold.Registry.Wiring

/-!
# Where anchors are found

A firm anchor finds a place in exactly the contents that hold a match of its pattern
(`Anchor.Firm.exists_site_iff`), whether the first match counts or the last. The anchors of the routes,
the permissions and the icons are steady, and so they are firm: what they match is made of words with
blanks between them (`Spaced`). Saving a file that was
read drops the carriage returns in front of line feeds (`toText_eq_dropReturns`), which are parts of
such blanks alone, so an anchor that is found in a text is found in it as it is saved
(`routes_saved`, `permissions_saved`).
-/
namespace Scaffold

namespace Text

/-- The text without the carriage returns that stand in front of line feeds. -/
def dropReturns : Text → Text
  | [] => []
  | c :: rest =>
    if c = '\x0d' ∧ rest.head? = some '\n' then dropReturns rest else c :: dropReturns rest

/-- In front of anything but a line feed a text loses what it loses alone. -/
theorem dropReturns_append {after : Text} (other : after.head? ≠ some '\n') (before : Text) :
    dropReturns (before ++ after) = dropReturns before ++ dropReturns after := by
  induction before with
  | nil => rfl
  | cons c before ih =>
    have next : (before ++ after).head? = some '\n' ↔ before.head? = some '\n' := by
      cases before with
      | nil => simp [other]
      | cons d before => simp
    rw [List.cons_append, dropReturns, dropReturns]
    simp only [next]
    split
    · exact ih
    · rw [ih, List.cons_append]

/-- A text without carriage returns loses nothing. -/
theorem dropReturns_append_left {before : Text} (clean : '\x0d' ∉ before) (after : Text) :
    dropReturns (before ++ after) = before ++ dropReturns after := by
  induction before with
  | nil => rfl
  | cons c before ih =>
    have kept : ¬(c = '\x0d' ∧ (before ++ after).head? = some '\n') := by
      rintro ⟨rfl, -⟩
      exact clean List.mem_cons_self
    rw [List.cons_append, dropReturns, if_neg kept,
      ih fun inside => clean (List.mem_cons_of_mem c inside), List.cons_append]

/-- What is left of a text are characters of it. -/
theorem dropReturns_subset (text : Text) : dropReturns text ⊆ text := by
  induction text with
  | nil => exact List.Subset.refl _
  | cons c rest ih =>
    rw [dropReturns]
    split
    · exact fun d inside => List.mem_cons_of_mem c (ih inside)
    · exact List.cons_subset_cons c ih

/-- The last character stays. -/
theorem getLast?_dropReturns (text : Text) : (dropReturns text).getLast? = text.getLast? := by
  induction text with
  | nil => rfl
  | cons c rest ih =>
    rw [dropReturns]
    split
    · rename_i gone
      cases rest with
      | nil => simp at gone
      | cons d rest => rw [ih, List.getLast?_cons_cons]
    · rw [List.getLast?_cons, List.getLast?_cons, ih]

/-- A text without line feeds loses nothing. -/
theorem dropReturns_of_notMem {text : Text} (whole : '\n' ∉ text) : dropReturns text = text := by
  induction text with
  | nil => rfl
  | cons c rest ih =>
    have kept : ¬(c = '\x0d' ∧ rest.head? = some '\n') := by
      rintro ⟨-, first⟩
      exact whole (List.mem_cons_of_mem c (List.mem_of_head? first))
    rw [dropReturns, if_neg kept, ih fun inside => whole (List.mem_cons_of_mem c inside)]

/-- A row in front of a line feed loses a carriage return at its end. -/
theorem dropReturns_append_feed {row : Text} (whole : '\n' ∉ row) (after : Text) :
    dropReturns (row ++ '\n' :: after) = withoutReturn row ++ '\n' :: dropReturns after := by
  induction row with
  | nil => rfl
  | cons c row ih =>
    have later := ih fun inside => whole (List.mem_cons_of_mem c inside)
    rw [List.cons_append, dropReturns, later]
    cases row with
    | nil =>
      by_cases isReturn : c = '\x0d'
      · subst isReturn
        rfl
      · simp [withoutReturn, isReturn]
    | cons d row =>
      have other : d ≠ '\n' := by
        rintro rfl
        exact whole (by simp)
      have cut : withoutReturn (c :: d :: row) = c :: withoutReturn (d :: row) := by
        unfold withoutReturn
        rw [List.getLast?_cons_cons]
        split <;> rfl
      simp [other, cut]

/-- Rows are saved without those carriage returns. -/
theorem unlines_savedRows {all : List Text} (whole : ∀ row ∈ all, '\n' ∉ row) :
    unlines (savedRows all) = dropReturns (unlines all) := by
  induction all with
  | nil => rfl
  | cons row rest ih =>
    have single := whole row List.mem_cons_self
    have later := ih fun other member => whole other (List.mem_cons_of_mem row member)
    cases rest with
    | nil => exact (dropReturns_of_notMem single).symm
    | cons next more =>
      have split : unlines (row :: next :: more) = row ++ '\n' :: unlines (next :: more) := by
        simp [unlines, joinWith]
      rw [split, dropReturns_append_feed single, ← later]
      cases saved : savedRows (next :: more) with
      | nil => cases more <;> simp [savedRows] at saved
      | cons first others => simp [savedRows, saved, unlines, joinWith]

end Text

open Text

/-- A file that was read is saved as its text without those carriage returns. -/
theorem SharedFile.toText_eq_dropReturns {text : Text} (filled : text ≠ []) :
    (ofText text).toText = dropReturns text := by
  rw [← unlines_rows (ofText text).toText, rows_toText_ofText filled,
    unlines_savedRows fun row => feed_notMem_of_mem_rows, unlines_rows]

namespace Text

/-- Words with blanks behind each of them, at least so many. -/
def Spaced : List (Text × Nat) → Text → Prop
  | [], text => text = []
  | (word, least) :: words, text =>
    ∃ gap rest, text = word ++ gap ++ rest ∧ (∀ c ∈ gap, isBlank c = true) ∧ least ≤ gap.length ∧
      Spaced words rest

/-- There is a word, it does not begin with a line feed, and it holds no carriage return. -/
def isSolid (word : Text) : Bool := word.head?.any (· != '\n') && !word.contains '\x0d'

variable {words : List (Text × Nat)} {text after : Text}

/-- Spaced words do not begin with a line feed. -/
theorem Spaced.head?_ne (solid : ∀ pair ∈ words, isSolid pair.1 = true) (spaced : Spaced words text)
    (other : after.head? ≠ some '\n') : (text ++ after).head? ≠ some '\n' := by
  cases words with
  | nil =>
    obtain rfl : text = [] := spaced
    exact other
  | cons pair words =>
    obtain ⟨gap, rest, rfl, -⟩ := spaced
    have filled := ((Bool.and_eq_true _ _).mp (solid pair List.mem_cons_self)).1
    obtain ⟨c, first, different⟩ := (Option.any_eq_true _ _).mp filled
    rw [List.append_assoc, List.append_assoc, List.head?_append, first, Option.some_or]
    simpa using different

/-- Spaced words are spaced words without the carriage returns in front of line feeds. -/
theorem Spaced.dropReturns (solid : ∀ pair ∈ words, isSolid pair.1 = true ∧ pair.2 ≤ 1)
    (spaced : Spaced words text) (other : after.head? ≠ some '\n') :
    ∃ kept, Spaced words kept ∧
      Text.dropReturns (text ++ after) = kept ++ Text.dropReturns after := by
  induction words generalizing text with
  | nil =>
    obtain rfl : text = [] := spaced
    exact ⟨[], rfl, rfl⟩
  | cons pair words ih =>
    obtain ⟨gap, rest, rfl, blank, enough, more⟩ := spaced
    have later := fun other member => solid other (List.mem_cons_of_mem pair member)
    obtain ⟨here, few⟩ := solid pair List.mem_cons_self
    have clean : '\x0d' ∉ pair.1 := by simpa using ((Bool.and_eq_true _ _).mp here).2
    obtain ⟨kept, shorter, cut⟩ := ih later more
    have next := more.head?_ne (fun pair member => (later pair member).1) other
    have some : pair.2 ≤ (Text.dropReturns gap).length := by
      cases gap with
      | nil => exact Nat.le_trans enough (Nat.zero_le _)
      | cons c gap =>
        have filled : Text.dropReturns (c :: gap) ≠ [] := by
          intro none
          have last := getLast?_dropReturns (c :: gap)
          simp [none, List.getLast?_cons] at last
        exact Nat.le_trans few (List.length_pos_iff.mpr filled)
    refine ⟨pair.1 ++ Text.dropReturns gap ++ kept, ⟨Text.dropReturns gap, kept, rfl,
      fun c inside => blank c (dropReturns_subset gap inside), some, shorter⟩, ?_⟩
    simp only [List.append_assoc]
    rw [dropReturns_append_left clean, dropReturns_append next, cut]

end Text

namespace Pattern

/-- The items of words with blanks behind each of them. -/
def spaced (words : List (Text × Nat)) : List Pattern :=
  words.flatMap fun (letters, least) => word letters ++ [blanks least]

/-- They match such words. -/
theorem matchesAll_spaced {words : List (Text × Nat)} {before text after : Text} :
    MatchesAll (spaced words) before text after ↔ Spaced words text := by
  induction words generalizing before text with
  | nil => rfl
  | cons pair words ih =>
    have step : spaced (pair :: words) = word pair.1 ++ [blanks pair.2] ++ spaced words := rfl
    simp only [step, matchesAll_append, matchesAll_word, matchesAll_singleton, matches_blanks, ih,
      Spaced]
    constructor
    · rintro ⟨_, rest, rfl, ⟨_, gap, rfl, rfl, blank, enough⟩, more⟩
      exact ⟨gap, rest, rfl, blank, enough, more⟩
    · rintro ⟨gap, rest, rfl, blank, enough, more⟩
      exact ⟨pair.1 ++ gap, rest, rfl, ⟨pair.1, gap, rfl, rfl, blank, enough⟩, more⟩

end Pattern

namespace Anchor

open Pattern

/-- An anchor that has a place at every match of its pattern: before it, or behind a last character of
one byte. -/
structure Firm (anchor : Anchor) (pattern : Pattern) : Prop where
  /-- The pattern is the one that is written. -/
  reads : Pattern.read? anchor.pattern = some pattern
  /-- It asks for no more than it allows. -/
  ordered : pattern.isOrdered = true
  /-- There is a place at every match. -/
  ends : anchor.placement = .before ∨ ∀ before text after, pattern.Matches before text after →
    text.getLast?.all Text.isSingleByte = true

/-- An anchor that stands at the first match of a pattern without repetitions of more than
characters, and either before it or behind a last character of one byte. -/
structure Steady (anchor : Anchor) (pattern : Pattern) : Prop where
  /-- The pattern is the one that is written. -/
  reads : Pattern.read? anchor.pattern = some pattern
  /-- It repeats nothing but characters. -/
  flat : pattern.isFlat = true
  /-- The first match counts. -/
  first : anchor.last = false
  /-- There is a place at every match. -/
  ends : anchor.placement = .before ∨ ∀ before text after, pattern.Matches before text after →
    text.getLast?.all Text.isSingleByte = true

variable {anchor : Anchor} {pattern : Pattern} {content : Text}

/-- The match that counts is a match. -/
theorem matches_of_find? (ordered : pattern.isOrdered = true) {found : Found}
    (counts : anchor.find? pattern content = some found) :
    content = found.before.reverse ++ found.text ++ found.after ∧
      pattern.Matches found.before found.text found.after := by
  unfold find? at counts
  split at counts
  · exact matches_of_mem_all ordered (List.mem_of_getLast? counts)
  · exact matches_of_first? ordered counts

/-- A match counts exactly if there is one. -/
theorem find?_isSome_iff (ordered : pattern.isOrdered = true) :
    (anchor.find? pattern content).isSome = true ↔ pattern.Occurs content := by
  unfold find?
  split
  · exact last?_isSome_iff ordered
  · exact first?_isSome_iff ordered

/-- A firm anchor is found or not, and it is found exactly where its pattern matches. -/
theorem Firm.exists_locate (firm : anchor.Firm pattern) (content : Text) :
    ∃ place, anchor.locate content = .ok place ∧
      (place.isSome = true ↔ pattern.Occurs content) := by
  rw [← @find?_isSome_iff anchor _ _ firm.ordered]
  simp only [locate, firm.reads]
  cases counts : anchor.find? pattern content with
  | none => exact ⟨none, rfl, by simp⟩
  | some found =>
    have cut : ∃ before, textBefore anchor.placement found = .ok before := by
      rcases firm.ends with before | single
      · rw [before]
        exact ⟨found.before.reverse, rfl⟩
      · have ending := single _ _ _ (matches_of_find? firm.ordered counts).2
        unfold textBefore
        split
        · exact ⟨_, rfl⟩
        · exact ⟨_, rfl⟩
        · rename_i last same
          rw [same, Option.all_some] at ending
          exact ⟨_, if_pos ending⟩
    obtain ⟨before, cut⟩ := cut
    obtain ⟨site, placed⟩ : ∃ site, anchor.siteAt content found = .ok site := by
      rw [siteAt, cut]
      exact ⟨_, rfl⟩
    exact ⟨some site, by simp [placed, Except.map], by simp⟩

/-- **A firm anchor is found exactly where its pattern matches.** -/
theorem Firm.exists_site_iff (firm : anchor.Firm pattern) :
    (∃ site, anchor.locate content = .ok (some site)) ↔ pattern.Occurs content := by
  obtain ⟨place, done, found⟩ := firm.exists_locate content
  rw [← found, done]
  simp [Option.isSome_iff_exists]

/-- It is not found exactly where its pattern does not match. -/
theorem Firm.locate_eq_none_iff (firm : anchor.Firm pattern) :
    anchor.locate content = .ok none ↔ ¬pattern.Occurs content := by
  obtain ⟨place, done, found⟩ := firm.exists_locate content
  rw [← found, done]
  simp

/-- A steady anchor is firm. -/
theorem Steady.firm (steady : anchor.Steady pattern) : anchor.Firm pattern :=
  ⟨steady.reads, isOrdered_of_isFlat steady.flat, steady.ends⟩

/-- The characters of a margin. -/
def marginSet : CharSet := .either (.either .nothing (.only ' ')) (.only '\t')

/-- The words that load a further route file. -/
def routesWords : List (Text × Nat) := [("require", 1), ("__DIR__", 0), (".", 0)]

/-- The words in front of the list of permissions. -/
def permissionsWords : List (Text × Nat) := [("$permissions", 0), ("=", 0)]

/-- What the anchor of the routes looks for. -/
def routesPattern : Pattern :=
  sequence (.boundary (.lineStart false) :: .run marginSet 0 none false ::
    (spaced routesWords ++ (word "'/" ++
      (.either (sequence (word "settings")) (sequence (word "auth")) :: word ".php';"))))

/-- What the anchor of the permissions looks for. -/
def permissionsPattern : Pattern :=
  sequence (spaced permissionsWords ++ word "[")

/-- A match of the anchor of the routes: at the front of a line, behind a margin. -/
theorem matches_routesPattern {before text after : Text} :
    routesPattern.Matches before text after ↔
      (before = [] ∨ before.head? = some '\n') ∧ ∃ margin words file,
        text = margin ++ words ++ ("'/" ++ file ++ ".php';") ∧ (∀ c ∈ margin, isMargin c = true) ∧
        Text.Spaced routesWords words ∧ (file = "settings" ∨ file = "auth") := by
  have held : ∀ c, marginSet.holds c = isMargin c := by
    intro c
    rw [Bool.eq_iff_iff]
    simp [marginSet, CharSet.holds, isMargin]
  have begins : ∀ after, (Boundary.lineStart false).holds ⟨before, after, []⟩ = true ↔
      before = [] ∨ before.head? = some '\n' := by
    intro after
    cases before with
    | nil => simp [Boundary.holds, Cursor.atLineStart]
    | cons c before =>
      by_cases feed : c = '\n'
      · simp [Boundary.holds, Cursor.atLineStart, feed]
      · by_cases isReturn : c = '\x0d'
        · simp [Boundary.holds, Cursor.atLineStart, isReturn]
        · simp [Boundary.holds, Cursor.atLineStart, feed, isReturn]
  simp only [routesPattern, matches_sequence, matchesAll_append, matchesAll_spaced, matchesAll_word,
    Matches, MatchesAll, begins, held]
  constructor
  · rintro ⟨_, _, rfl, ⟨rfl, front⟩, margin, _, rfl, ⟨margins, -⟩, words, _, rfl, spaced, _, _, rfl,
      rfl, file, _, rfl, named, rfl⟩
    exact ⟨front, margin, words, file, by simp, margins, spaced, named⟩
  · rintro ⟨front, margin, words, file, rfl, margins, spaced, named⟩
    exact ⟨[], _, rfl, ⟨rfl, front⟩, margin, _, List.append_assoc _ _ _,
      ⟨margins, Nat.zero_le _, by simp⟩, words, _, rfl, spaced, _, _, List.append_assoc _ _ _, rfl,
      file, _, rfl, named, rfl⟩

/-- A match of the anchor of the permissions. -/
theorem matches_permissionsPattern {before text after : Text} :
    permissionsPattern.Matches before text after ↔
      ∃ words, text = words ++ "[" ∧ Text.Spaced permissionsWords words := by
  simp only [permissionsPattern, matches_sequence, matchesAll_append, matchesAll_spaced,
    matchesAll_word]
  constructor
  · rintro ⟨words, _, rfl, spaced, rfl⟩
    exact ⟨words, rfl, spaced⟩
  · rintro ⟨words, rfl, spaced⟩
    exact ⟨words, _, rfl, spaced, rfl⟩

/-- The anchor of the routes is steady. -/
theorem steady_routes : routes.Steady routesPattern := by
  obtain ⟨reads, ordered⟩ :
      Pattern.read? routes.pattern = some routesPattern ∧ routesPattern.isOrdered = true := by
    unfold routes routesPattern routesWords
    simp (disch := exact rfl) only [Text.toList_literal, -String.reduceToList]
    decide +kernel
  exact ⟨reads, ordered, rfl, .inl rfl⟩

/-- So is that of the permissions. -/
theorem steady_permissions : permissions.Steady permissionsPattern := by
  obtain ⟨reads, ordered⟩ : Pattern.read? permissions.pattern = some permissionsPattern ∧
      permissionsPattern.isOrdered = true := by
    unfold permissions permissionsPattern permissionsWords
    simp (disch := exact rfl) only [Text.toList_literal, -String.reduceToList]
    decide +kernel
  refine ⟨reads, ordered, rfl, .inr fun before text after matched => ?_⟩
  obtain ⟨words, rfl, -⟩ := matches_permissionsPattern.mp matched
  have last : ("[" : Text).getLast? = some '[' := by decide
  rw [List.getLast?_append, last]
  rfl

/-- The carriage returns of the lines above are part of no match. -/
example : routes.locate "<?php\r\n  require __DIR__ . '/auth.php';" = .ok (some ⟨1, "  ".toList⟩) := by
  decide +kernel

/-- A match of the routes in a text is one in the text as it is saved. -/
theorem occurs_routes_saved (occurs : routesPattern.Occurs content) :
    routesPattern.Occurs (Text.dropReturns content) := by
  obtain ⟨front, _, after, rfl, matched⟩ := occurs
  obtain ⟨begins, margin, words, file, rfl, margins, spaced, named⟩ :=
    matches_routesPattern.mp matched
  have solid : ∀ pair ∈ routesWords, Text.isSolid pair.1 = true ∧ pair.2 ≤ 1 := by
    decide
  have quote : (("'/" ++ file ++ ".php';" : Text) ++ after).head? ≠ some '\n' := by
    have first : ("'/" : Text).head? = some '\'' := by decide
    rw [List.append_assoc, List.append_assoc, List.head?_append, first]
    simp
  have clean : '\x0d' ∉ ("'/" ++ file ++ ".php';" : Text) := by
    rcases named with rfl | rfl <;> decide
  have margin_ne : ∀ {c : Char}, isMargin c = false → c ∉ margin := by
    intro c other inside
    rw [margins c inside] at other
    exact Bool.noConfusion other
  have next := spaced.head?_ne (fun pair member => (solid pair member).1) quote
  have starts : (margin ++ (words ++ (("'/" ++ file ++ ".php';" : Text) ++ after))).head? ≠
      some '\n' := by
    rw [List.head?_append]
    cases first : margin.head? with
    | none => exact next
    | some c =>
      rintro same
      obtain rfl : c = '\n' := by simpa using same
      exact margin_ne (by decide) (List.mem_of_head? first)
  obtain ⟨kept, shorter, cut⟩ := spaced.dropReturns solid quote
  refine ⟨Text.dropReturns front, _, Text.dropReturns after, ?_, matches_routesPattern.mpr
    ⟨?_, margin, kept, file, rfl, margins, shorter, named⟩⟩
  · rw [List.append_assoc front, List.append_assoc (margin ++ words), List.append_assoc margin,
      Text.dropReturns_append starts, Text.dropReturns_append_left (margin_ne (by decide)), cut,
      Text.dropReturns_append_left clean]
    simp only [List.append_assoc]
  · rw [List.head?_reverse] at begins ⊢
    rw [Text.getLast?_dropReturns]
    refine begins.imp_left fun none => ?_
    rw [List.reverse_eq_nil_iff.mp none]
    rfl

/-- A match of the permissions in a text is one in the text as it is saved. -/
theorem occurs_permissions_saved (occurs : permissionsPattern.Occurs content) :
    permissionsPattern.Occurs (Text.dropReturns content) := by
  obtain ⟨front, _, after, rfl, matched⟩ := occurs
  obtain ⟨words, rfl, spaced⟩ := matches_permissionsPattern.mp matched
  have solid : ∀ pair ∈ permissionsWords, Text.isSolid pair.1 = true ∧ pair.2 ≤ 1 := by
    decide
  have bracket : (("[" : Text) ++ after).head? ≠ some '\n' := by
    have first : ("[" : Text).head? = some '[' := by decide
    rw [List.head?_append, first]
    simp
  have starts := spaced.head?_ne (fun pair member => (solid pair member).1) bracket
  obtain ⟨kept, shorter, cut⟩ := spaced.dropReturns solid bracket
  refine ⟨Text.dropReturns front, _, Text.dropReturns after, ?_,
    matches_permissionsPattern.mpr ⟨kept, rfl, shorter⟩⟩
  rw [List.append_assoc front, List.append_assoc words, Text.dropReturns_append starts, cut,
    Text.dropReturns_append_left (by decide)]
  simp only [List.append_assoc]

/-- A steady anchor whose matches are kept by saving is found in a text as it is saved. -/
theorem Steady.saved (steady : anchor.Steady pattern)
    (filled : ¬pattern.Occurs [])
    (kept : pattern.Occurs content → pattern.Occurs (Text.dropReturns content))
    (found : ∃ site, anchor.locate content = .ok (some site)) :
    ∃ site, anchor.locate (SharedFile.ofText content).toText = .ok (some site) := by
  have occurs := steady.firm.exists_site_iff.mp found
  have some : content ≠ [] := fun none => filled (none ▸ occurs)
  rw [steady.firm.exists_site_iff, SharedFile.toText_eq_dropReturns some]
  exact kept occurs

/-- There is no place for routes or permissions in an empty file. -/
theorem locate_nil : routes.locate [] = .ok none ∧ permissions.locate [] = .ok none := by
  unfold routes permissions
  simp (disch := exact rfl) only [Text.toList_literal, -String.reduceToList]
  decide +kernel

/-- **Anchors that are found in a text are found in it as it is saved**: the routes. -/
theorem routes_saved {text : Text} (found : ∃ site, routes.locate text = .ok (some site)) :
    ∃ site, routes.locate (SharedFile.ofText text).toText = .ok (some site) := by
  exact steady_routes.saved (steady_routes.firm.locate_eq_none_iff.mp locate_nil.1)
    occurs_routes_saved found

/-- And the permissions. -/
theorem permissions_saved {text : Text}
    (found : ∃ site, permissions.locate text = .ok (some site)) :
    ∃ site, permissions.locate (SharedFile.ofText text).toText = .ok (some site) := by
  exact steady_permissions.saved (steady_permissions.firm.locate_eq_none_iff.mp locate_nil.2)
    occurs_permissions_saved found

end Anchor

end Scaffold
