import Scaffold.Proofs.Registry.Anchoring
import Scaffold.Proofs.Text.Piece

/-!
# Imports of icons

An import of icons lists their names between braces and ends with its source (`IsIconImport`). The
anchor of the icons looks for one with a semicolon behind it (`isImport_iff`), and `imports` reads
which icons a text imports (`imports_iff`). The lines of a menu item bring no import to a file: in
front of the brace of the item, and behind it, an import would have to leave out what stands there
(`infix_insertLines`). So a file imports what it imported above the lines or below them
(`imports_insertLines`).
-/
namespace Scaffold

open Text

namespace Anchor

open Pattern

variable {names text : Text}

/-- The word in front of the names of imported icons. -/
def importWords : List (Text × Nat) := [("import", 0)]

/-- The words behind them. -/
def fromWords : List (Text × Nat) := [("\x7d", 0), ("from", 0)]

/-- All characters but a closing brace. -/
def namesSet : CharSet := .complement (.either .nothing (.only '\x7d'))

/-- What the anchor of the icons looks for. -/
def iconsPattern : Pattern :=
  sequence (spaced importWords ++ (word "\x7b" ++ (.run namesSet 0 none false ::
    (spaced fromWords ++ word "'lucide-react';"))))

/-- A match of the anchor of the icons: an import of names between braces. -/
theorem matches_iconsPattern {before text after : Text} :
    iconsPattern.Matches before text after ↔ ∃ lead names source,
      text = lead ++ ("\x7b" ++ (names ++ (source ++ "'lucide-react';"))) ∧
        Spaced importWords lead ∧ '\x7d' ∉ names ∧ Spaced fromWords source := by
  have held : ∀ {names : Text}, (∀ c ∈ names, namesSet.holds c = true) ↔ '\x7d' ∉ names := by
    intro names
    have single : ∀ c, namesSet.holds c = true ↔ c ≠ '\x7d' := by
      intro c
      simp [namesSet, CharSet.holds, ← Bool.not_eq_true, CharSet.holds_only]
    simp only [single, ne_eq]
    exact ⟨fun all inside => all _ inside rfl, fun absent c inside same => absent (same ▸ inside)⟩
  simp only [iconsPattern, matches_sequence, matchesAll_append, matchesAll_spaced, matchesAll_word,
    Matches, MatchesAll, held]
  constructor
  · rintro ⟨lead, _, rfl, first, _, _, rfl, rfl, names, _, rfl, ⟨closed, -⟩, source, _, rfl, second,
      rfl⟩
    exact ⟨lead, names, source, rfl, first, closed, second⟩
  · rintro ⟨lead, names, source, rfl, first, closed, second⟩
    exact ⟨lead, _, rfl, first, _, _, rfl, rfl, names, _, rfl, ⟨closed, Nat.zero_le _, by simp⟩,
      source, _, rfl, second, rfl⟩

/-- A text that the anchor of the icons matches, wherever it stands. -/
def IsImport (text : Text) : Prop := iconsPattern.Matches [] text []

/-- The anchor is found where such a text is. -/
theorem occurs_icons_iff {content : Text} :
    iconsPattern.Occurs content ↔ ∃ text, IsImport text ∧ text <:+: content := by
  simp only [Pattern.Occurs, IsImport, matches_iconsPattern]
  constructor
  · rintro ⟨front, text, after, rfl, matched⟩
    exact ⟨text, matched, front, after, rfl⟩
  · rintro ⟨text, matched, front, after, rfl⟩
    exact ⟨front, text, after, rfl, matched⟩

/-- An import of icons from its word to its source, with what stands between its braces. -/
def IsIconImport (names text : Text) : Prop :=
  ∃ gap room between, text = "import" ++ (gap ++ ("\x7b" ++ (names ++ ("\x7d" ++ (room ++
    ("from" ++ (between ++ "'lucide-react'"))))))) ∧ '\x7d' ∉ names ∧
    ∀ c ∈ gap ++ room ++ between, isBlank c = true

/-- The anchor of the icons matches such an import with a semicolon behind it. -/
theorem isImport_iff :
    IsImport text ↔ ∃ names own, IsIconImport names own ∧ text = own ++ [';'] := by
  have source : ("'lucide-react';" : Text) = "'lucide-react'" ++ [';'] := by decide
  simp only [IsImport, matches_iconsPattern, source]
  constructor
  · rintro ⟨_, names, _, rfl, ⟨gap, _, rfl, first, -, rfl⟩, closed,
      ⟨room, _, rfl, second, -, between, _, rfl, third, -, rfl⟩⟩
    refine ⟨names, _, ⟨gap, room, between, rfl, closed, ?_⟩, by simp⟩
    simp only [List.forall_mem_append]
    exact ⟨⟨first, second⟩, third⟩
  · rintro ⟨names, _, ⟨gap, room, between, rfl, closed, blank⟩, rfl⟩
    simp only [List.forall_mem_append] at blank
    refine ⟨("import" : Text) ++ gap ++ [], names,
      ("\x7d" : Text) ++ room ++ (("from" : Text) ++ between ++ []), ?_,
      ⟨gap, [], rfl, blank.1.1, Nat.zero_le _, rfl⟩, closed,
      ⟨room, _, rfl, blank.1.2, Nat.zero_le _, between, [], rfl, blank.2, Nat.zero_le _, rfl⟩⟩
    simp only [List.append_assoc, List.append_nil]

/-- An import begins with its word. -/
theorem IsIconImport.begins (isImport : IsIconImport names text) :
    ∃ more, text = ("import" : Text) ++ more := by
  obtain ⟨gap, room, between, rfl, -⟩ := isImport
  exact ⟨_, rfl⟩

/-- It ends with a quote. -/
theorem IsIconImport.ends (isImport : IsIconImport names text) : text.getLast? = some '\'' := by
  obtain ⟨gap, room, between, rfl, -⟩ := isImport
  have last : ("'lucide-react'" : Text).getLast? = some '\'' := by decide
  simp only [List.getLast?_append, last, Option.some_or]

/-- Behind its closing brace stands a blank or the word in front of the source, and no slash. -/
theorem IsIconImport.behind_brace {front behind : Text}
    (isImport : IsIconImport names (front ++ '\x7d' :: behind)) :
    (∃ c, behind.head? = some c ∧ (isBlank c = true ∨ c = 'f')) ∧ '/' ∉ behind := by
  obtain ⟨gap, room, between, split, closed, blank⟩ := isImport
  simp only [List.forall_mem_append] at blank
  obtain ⟨⟨before, after⟩, spaces⟩ := blank
  have solid : ∀ {c : Char} {gap : Text}, (∀ c ∈ gap, isBlank c = true) → isBlank c = false →
      c ∉ gap := fun blank odd inside => Bool.false_ne_true (odd.symm.trans (blank _ inside))
  have literal : '\x7d' ∉ ("import" : Text) ∧ '\x7d' ∉ ("\x7b" : Text) ∧ '\x7d' ∉ ("from" : Text) ∧
      '\x7d' ∉ ("'lucide-react'" : Text) ∧ '/' ∉ ("from" : Text) ∧
      '/' ∉ ("'lucide-react'" : Text) := by decide
  have brace : ("\x7d" : Text) = ['\x7d'] := by decide
  have source : ("from" : Text).head? = some 'f' := by decide
  have cut : front ++ '\x7d' :: behind = ("import" ++ gap ++ "\x7b" ++ names : Text) ++
      '\x7d' :: (room ++ ("from" ++ (between ++ "'lucide-react'")) : Text) := by
    rw [split, brace]
    simp only [List.append_assoc, List.cons_append, List.nil_append]
  have first : '\x7d' ∉ ("import" ++ gap ++ "\x7b" ++ names : Text) := by
    simp only [List.mem_append, not_or]
    exact ⟨⟨⟨literal.1, solid before (by decide)⟩, literal.2.1⟩, closed⟩
  have second : '\x7d' ∉ (room ++ ("from" ++ (between ++ "'lucide-react'")) : Text) := by
    simp only [List.mem_append, not_or]
    exact ⟨solid after (by decide), literal.2.2.1, solid spaces (by decide), literal.2.2.2.1⟩
  rw [eq_of_cut first second cut]
  constructor
  · cases room with
    | nil => exact ⟨'f', by rw [List.nil_append, List.head?_append, source, Option.some_or], .inr rfl⟩
    | cons c room => exact ⟨c, rfl, .inl (after c List.mem_cons_self)⟩
  · simp only [List.mem_append, not_or]
    exact ⟨solid after (by decide), literal.2.2.2.2.1, solid spaces (by decide), literal.2.2.2.2.2⟩

/-- What the anchor matches begins with its word. -/
theorem IsImport.begins (isImport : IsImport text) : ∃ more, text = ("import" : Text) ++ more := by
  obtain ⟨names, own, isIcon, rfl⟩ := isImport_iff.mp isImport
  obtain ⟨more, rfl⟩ := isIcon.begins
  exact ⟨more ++ [';'], List.append_assoc _ _ _⟩

/-- It ends with a semicolon. -/
theorem IsImport.ends (isImport : IsImport text) : text.getLast? = some ';' := by
  obtain ⟨names, own, -, rfl⟩ := isImport_iff.mp isImport
  exact List.getLast?_concat

/-- Behind its closing brace stands a blank or the word in front of the source. -/
theorem IsImport.behind_brace {front behind : Text} (isImport : IsImport (front ++ '\x7d' :: behind)) :
    ∃ c, behind.head? = some c ∧ (isBlank c = true ∨ c = 'f') := by
  obtain ⟨names, own, isIcon, split⟩ := isImport_iff.mp isImport
  rcases List.eq_nil_or_concat behind with rfl | ⟨init, last, rfl⟩
  · exact absurd (List.append_inj' split rfl).2 (by decide)
  · rw [List.concat_eq_append, ← List.cons_append, ← List.append_assoc] at split
    obtain ⟨rfl, -⟩ := List.append_inj' split rfl
    obtain ⟨⟨c, first, odd⟩, -⟩ := isIcon.behind_brace
    exact ⟨c, by rw [List.concat_eq_append, List.head?_append, first, Option.some_or], odd⟩

/-- The anchor of the icons is steady. -/
theorem steady_icons : icons.Steady iconsPattern := by
  refine ⟨by decide +kernel, by decide +kernel, rfl, .inr fun before text after matched => ?_⟩
  have ends : text.getLast? = some ';' :=
    IsImport.ends (matches_iconsPattern.mpr (matches_iconsPattern.mp matched))
  rw [ends]
  rfl

end Anchor

open Anchor

/-- What follows a word behind blanks. -/
def afterBlanks? (text word : Text) : Option Text := afterStart? (trimStart text) word

/-- The names in front of a closing brace, and what follows the brace. -/
def upToBrace? (text : Text) : Option (Text × Text) :=
  let names := text.takeWhile (· != '\x7d')
  (afterStart? (text.drop names.length) "\x7d").map (names, ·)

/-- The names of the import of icons with which a text begins. -/
def importedNames? (text : Text) : Option Text := do
  let opening ← afterStart? text "import"
  let inner ← afterBlanks? opening "\x7b"
  let (names, closing) ← upToBrace? inner
  let source ← afterBlanks? closing "from"
  let _ ← afterBlanks? source "'lucide-react'"
  some names

/-- An import of icons in a text lists the icon as a whole word. -/
def imports (icon : Text) : Text → Bool
  | [] => false
  | c :: rest => (importedNames? (c :: rest)).any (wordOccursIn icon) || imports icon rest

namespace Text

variable {text word rest names : Text}

/-- A word follows blanks. -/
theorem afterBlanks?_eq_some_iff {c : Char} (first : word.head? = some c) (solid : isBlank c = false) :
    afterBlanks? text word = some rest ↔
      ∃ gap, text = gap ++ (word ++ rest) ∧ ∀ c ∈ gap, isBlank c = true := by
  constructor
  · intro found
    refine ⟨text.takeWhile isBlank, ?_, List.all_eq_true.mp List.all_takeWhile⟩
    rw [← eq_append_of_afterStart? found]
    exact List.takeWhile_append_dropWhile.symm
  · rintro ⟨gap, rfl, blank⟩
    obtain ⟨others, rfl⟩ := List.head?_eq_some_iff.mp first
    have trimmed : trimStart (gap ++ (c :: others ++ rest)) = c :: others ++ rest := by
      rw [trimStart, List.dropWhile_append_of_pos blank, List.cons_append,
        List.dropWhile_cons_of_neg (by simp [solid])]
    rw [afterBlanks?, trimmed, afterStart?_append]

/-- A brace closes names without one. -/
theorem upToBrace?_eq_some_iff :
    upToBrace? text = some (names, rest) ↔ text = names ++ ("\x7d" ++ rest) ∧ '\x7d' ∉ names := by
  have brace : ("\x7d" : Text) = ['\x7d'] := by decide
  unfold upToBrace?
  simp only [Option.map_eq_some_iff, Prod.mk.injEq]
  constructor
  · rintro ⟨_, found, rfl, rfl⟩
    rw [← eq_append_of_afterStart? found]
    refine ⟨(List.prefix_iff_eq_append.mp (List.takeWhile_prefix _)).symm, fun inside => ?_⟩
    exact absurd (List.all_eq_true.mp List.all_takeWhile _ inside) (by decide)
  · rintro ⟨rfl, closed⟩
    have others : ∀ c ∈ names, (c != '\x7d') = true := by
      intro c inside
      rw [bne_iff_ne]
      rintro rfl
      exact closed inside
    have taken : (names ++ ("\x7d" ++ rest)).takeWhile (· != '\x7d') = names := by
      rw [brace, List.takeWhile_append_of_pos others]
      simp
    rw [taken, List.drop_left]
    exact ⟨rest, afterStart?_append _ _, rfl, rfl⟩

end Text

/-- The names are read from the imports. -/
theorem importedNames?_eq_some_iff {names content : Text} : importedNames? content = some names ↔
    ∃ text rest, content = text ++ rest ∧ IsIconImport names text := by
  have solid : ("\x7b" : Text).head? = some '\x7b' ∧ ("from" : Text).head? = some 'f' ∧
      ("'lucide-react'" : Text).head? = some '\'' := by decide
  have opens := fun text rest => @afterBlanks?_eq_some_iff text _ rest _ solid.1 (by decide)
  have follows := fun text rest => @afterBlanks?_eq_some_iff text _ rest _ solid.2.1 (by decide)
  have quotes := fun text rest => @afterBlanks?_eq_some_iff text _ rest _ solid.2.2 (by decide)
  simp only [importedNames?, Option.bind_eq_bind, Option.bind_eq_some_iff, Prod.exists, opens,
    follows, quotes, upToBrace?_eq_some_iff, Option.some.injEq, IsIconImport, List.forall_mem_append]
  constructor
  · rintro ⟨opening, first, inner, ⟨gap, rfl, before⟩, _, closing, ⟨rfl, closed⟩, source,
      ⟨room, rfl, after⟩, rest, ⟨between, rfl, spaces⟩, rfl⟩
    rw [eq_append_of_afterStart? first]
    exact ⟨_, rest, by simp only [List.append_assoc], gap, room, between, rfl, closed,
      ⟨before, after⟩, spaces⟩
  · rintro ⟨_, rest, rfl, gap, room, between, rfl, closed, ⟨before, after⟩, spaces⟩
    simp only [List.append_assoc, afterStart?_append, Option.some.injEq]
    exact ⟨_, rfl, _, ⟨gap, rfl, before⟩, names, _, ⟨rfl, closed⟩, _, ⟨room, rfl, after⟩, rest,
      ⟨between, rfl, spaces⟩, rfl⟩

/-- **The imports of a text.** An icon is imported by a text that an import stands in which lists it as
a whole word. -/
theorem imports_iff {icon content : Text} : imports icon content = true ↔
    ∃ names text, IsIconImport names text ∧ text <:+: content ∧ wordOccursIn icon names = true := by
  induction content with
  | nil =>
    have none : ∀ {names text : Text}, IsIconImport names text → ¬text <:+: [] := by
      intro names text isImport inside
      obtain rfl := List.infix_nil.mp inside
      exact absurd isImport.ends (by simp)
    simp only [imports, Bool.false_eq_true, false_iff]
    rintro ⟨names, text, isImport, inside, -⟩
    exact none isImport inside
  | cons c rest ih =>
    simp only [imports, Bool.or_eq_true, ih, Option.any_eq_true, importedNames?_eq_some_iff]
    constructor
    · rintro (⟨names, ⟨text, after, split, isImport⟩, listed⟩ |
        ⟨names, text, isImport, inside, listed⟩)
      · exact ⟨names, text, isImport, split ▸ (List.prefix_append text after).isInfix, listed⟩
      · exact ⟨names, text, isImport, List.infix_cons inside, listed⟩
    · rintro ⟨names, text, isImport, inside, listed⟩
      rcases List.infix_cons_iff.mp inside with ⟨after, split⟩ | later
      · exact .inl ⟨names, ⟨text, after, split.symm, isImport⟩, listed⟩
      · exact .inr ⟨names, text, isImport, later, listed⟩

/-- A text imports what a part of it imports. -/
theorem imports_of_infix {icon piece content : Text} (inside : piece <:+: content)
    (imported : imports icon piece = true) : imports icon content = true := by
  obtain ⟨names, text, isImport, here, listed⟩ := imports_iff.mp imported
  exact imports_iff.mpr ⟨names, text, isImport, here.trans inside, listed⟩

namespace SharedFile

variable {file : SharedFile} {index : Nat} {above below : List Text} {item piece : Text}

/-- A piece that does not end with a line feed is in a file exactly if it is in its lines. -/
theorem infix_toText_iff {c : Char} (last : piece.getLast? = some c) (other : c ≠ '\n') :
    piece <:+: file.toText ↔ piece <:+: fed file.lines := by
  rw [infix_fed_iff last other]
  refine ⟨fun inside => infix_left last ?_ inside,
    fun inside => inside.trans (List.prefix_append _ _).isInfix⟩
  split <;> simp [other]

/-- The anchor of the icons is found in a file exactly if it is found in its lines. -/
theorem occurs_icons_toText : iconsPattern.Occurs file.toText ↔
    ∃ text, IsImport text ∧ text <:+: fed file.lines := by
  rw [occurs_icons_iff]
  exact exists_congr fun text => and_congr_right fun isImport =>
    infix_toText_iff isImport.ends (by decide)

/-- A file imports what its lines import. -/
theorem imports_toText (icon : Text) : imports icon file.toText = imports icon (unlines file.lines) := by
  rw [Bool.eq_iff_iff, imports_iff, imports_iff]
  refine exists_congr fun names => exists_congr fun text => and_congr_right fun isImport => ?_
  rw [infix_toText_iff isImport.ends (by decide), infix_fed_iff isImport.ends (by decide)]

/-- A piece that begins like an import and has no comma behind a brace lies in front of the brace of
an item that is put in with a comma behind it, or below the lines that are put in. -/
theorem infix_insertLines (begins : ∃ more, piece = ("import" : Text) ++ more)
    (braced : ∀ {front behind : Text}, piece = front ++ '\x7d' :: behind →
      ∃ c, behind.head? = some c ∧ c ≠ ',')
    (rest : ∀ line ∈ below, ¬("import" : Text) <:+: line)
    (inside : piece <:+:
      fed (file.insertLines index (above ++ (item ++ ['\x7d', ',']) :: below)).lines) :
    piece <:+: fed (file.lines.take index) ++ (fed above ++ item) ∨
      piece <:+: fed (file.lines.drop index) := by
  have split : fed (file.insertLines index (above ++ (item ++ ['\x7d', ',']) :: below)).lines =
      (fed (file.lines.take index) ++ (fed above ++ item)) ++
        '\x7d' :: (fed ([','] :: below) ++ fed (file.lines.drop index)) := by
    simp [insertLines, fed]
  rw [split] at inside
  rcases List.infix_append_iff.mp inside with left | right | ⟨front, behind, cut, ends, starts⟩
  · exact .inl left
  · -- Behind the brace it begins below the lines, for it begins with a word that they do not hold.
    obtain ⟨more, rfl⟩ := begins
    have word : ("import" : Text) ≠ [] ∧ '\n' ∉ ("import" : Text) ∧
        ¬("import" : Text) <:+: ['\x7d', ','] := by decide
    have later : ("import" : Text) ++ more <:+:
        fed (['\x7d', ','] :: below) ++ fed (file.lines.drop index) := right
    refine .inr (infix_right_fed word.1 word.2.1 ?_ later)
    intro line member
    rcases List.mem_cons.mp member with rfl | member
    · exact word.2.2
    · exact rest line member
  · -- It cannot hold the brace, for a comma stands behind it.
    cases behind with
    | nil => exact .inl (cut.trans (List.append_nil front) ▸ ends.isInfix)
    | cons c behind =>
      obtain ⟨rfl, next⟩ := List.cons_prefix_cons.mp starts
      obtain ⟨c, first, odd⟩ := braced cut
      obtain ⟨others, rfl⟩ := List.head?_eq_some_iff.mp first
      exact absurd (List.cons_prefix_cons.mp next).1 odd

/-- A brace is followed by no comma where a blank or the word in front of the source follows. -/
theorem ne_comma {c : Char} (odd : isBlank c = true ∨ c = 'f') : c ≠ ',' := by
  rintro rfl
  exact absurd odd (by decide)

/-- Lines put in bring no match of the anchor of the icons if they hold an item that ends with a
brace and a comma, no semicolon in front of the brace, and no further import. -/
theorem occurs_icons_of_insertLines (quiet : ∀ line ∈ above, ';' ∉ line) (quietItem : ';' ∉ item)
    (rest : ∀ line ∈ below, ¬("import" : Text) <:+: line)
    (occurs : iconsPattern.Occurs
      (file.insertLines index (above ++ (item ++ ['\x7d', ',']) :: below)).toText) :
    iconsPattern.Occurs file.toText := by
  rw [occurs_icons_toText] at occurs ⊢
  obtain ⟨text, isImport, inside⟩ := occurs
  refine ⟨text, isImport, ?_⟩
  have sides := infix_insertLines isImport.begins (fun {front behind} split => by
    subst split
    obtain ⟨c, first, odd⟩ := isImport.behind_brace
    exact ⟨c, first, ne_comma odd⟩) rest inside
  rw [← List.take_append_drop index file.lines, fed_append]
  rcases sides with front | behind
  · -- In front of the brace the import ends above the lines, for it ends with a semicolon.
    have absent : ';' ∉ fed above ++ item := by
      simp [notMem_fed (by decide) quiet, quietItem]
    exact (infix_left isImport.ends absent front).trans (List.prefix_append _ _).isInfix
  · exact behind.trans (List.suffix_append _ _).isInfix

/-- An import lies above a comment without a brace behind it: no slash stands behind its own brace. -/
theorem infix_above_comment {names text before margin comment : Text}
    (isImport : IsIconImport names text) (blank : ∀ c ∈ margin, isBlank c = true)
    (braceless : '\x7d' ∉ comment) (inside : text <:+: before ++ (margin ++ '/' :: comment)) :
    text <:+: before := by
  have brace : '\x7d' ∈ text := by
    obtain ⟨gap, room, between, rfl, -⟩ := isImport
    have own : '\x7d' ∈ ("\x7d" : Text) := by decide
    simp only [List.mem_append, own, true_or, or_true]
  have solid : '\'' ∉ margin := fun inner => absurd (blank _ inner) (by decide)
  rw [← List.append_assoc] at inside
  rcases List.infix_append_iff.mp inside with left | right | ⟨front, behind, cut, ends, starts⟩
  · exact infix_left isImport.ends solid left
  · have absent : '\x7d' ∉ '/' :: comment := by simp [braceless]
    exact absurd (right.subset brace) absent
  · cases behind with
    | nil =>
      rw [List.append_nil] at cut
      subst cut
      exact infix_left isImport.ends solid ends.isInfix
    | cons c behind =>
      obtain ⟨rfl, next⟩ := List.cons_prefix_cons.mp starts
      -- The brace stands in front of the slash, so the slash stands behind the brace.
      have early : '\x7d' ∈ front := by
        rw [cut] at brace
        rcases List.mem_append.mp brace with early | late
        · exact early
        · rcases List.mem_cons.mp late with same | late
          · exact absurd same (by decide)
          · exact absurd (next.subset late) braceless
      obtain ⟨start, rest, rfl⟩ := List.append_of_mem early
      rw [List.append_assoc, List.cons_append] at cut
      subst cut
      exact absurd (by simp) isImport.behind_brace.2

/-- **A menu item brings no import.** A file into which it is put below a comment imports the icons that
it imported above or below it. -/
theorem imports_insertLines {icon margin comment : Text} {more : List Text}
    (blank : ∀ c ∈ margin, isBlank c = true) (heads : above = (margin ++ '/' :: comment) :: more)
    (braceless : ∀ line ∈ above, '\x7d' ∉ line) (braceItem : '\x7d' ∉ item)
    (rest : ∀ line ∈ below, ¬("import" : Text) <:+: line) :
    imports icon (file.insertLines index (above ++ (item ++ ['\x7d', ',']) :: below)).toText =
      (imports icon (unlines (file.lines.take index)) ||
        imports icon (unlines (file.lines.drop index))) := by
  have feed : ∀ {names text : Text}, IsIconImport names text → ∀ lines : List Text,
      text <:+: fed lines ↔ text <:+: unlines lines :=
    fun isImport lines => infix_fed_iff isImport.ends (by decide)
  have whole : ∀ {names text : Text}, IsIconImport names text →
      (text <:+: (file.insertLines index (above ++ (item ++ ['\x7d', ',']) :: below)).toText ↔
        text <:+: fed (file.insertLines index (above ++ (item ++ ['\x7d', ',']) :: below)).lines) :=
    fun isImport => infix_toText_iff isImport.ends (by decide)
  rw [Bool.eq_iff_iff, Bool.or_eq_true, imports_iff, imports_iff, imports_iff]
  constructor
  · rintro ⟨names, text, isImport, inside, listed⟩
    rw [whole isImport] at inside
    have sides := infix_insertLines isImport.begins (fun {front behind} split => by
      subst split
      obtain ⟨⟨c, first, odd⟩, -⟩ := isImport.behind_brace
      exact ⟨c, first, ne_comma odd⟩) rest inside
    rcases sides with front | behind
    · have absent : '\x7d' ∉ comment ++ '\n' :: (fed more ++ item) := by
        subst heads
        obtain ⟨first, others⟩ := List.forall_mem_cons.mp braceless
        have own : '\x7d' ∉ comment := fun inner => first (by simp [inner])
        simp [own, @notMem_fed '\x7d' (by decide) _ others, braceItem]
      have split : fed above ++ item = margin ++ '/' :: (comment ++ '\n' :: (fed more ++ item)) := by
        rw [heads]
        simp [fed]
      rw [split] at front
      have own := infix_above_comment isImport blank absent front
      exact .inl ⟨names, text, isImport, (feed isImport _).mp own, listed⟩
    · exact .inr ⟨names, text, isImport, (feed isImport _).mp behind, listed⟩
  · rintro (⟨names, text, isImport, inside, listed⟩ | ⟨names, text, isImport, inside, listed⟩) <;>
      refine ⟨names, text, isImport, (whole isImport).mpr ?_, listed⟩ <;>
      rw [← feed isImport] at inside
    · rw [insertLines, List.append_assoc, fed_append]
      exact inside.trans (List.prefix_append _ _).isInfix
    · rw [insertLines, fed_append]
      exact inside.trans (List.suffix_append _ _).isInfix

end SharedFile

end Scaffold
