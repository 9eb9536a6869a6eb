import Scaffold.Code.Identifier
import Scaffold.Code.Markup
import Scaffold.Proofs.Text.Plain
import Scaffold.Proofs.Text.Row
import Scaffold.Text.Quoted

/-!
# What stands in code and which helpers it mentions

A piece of text stands in lines of code if it is a part of one of them. It stands so in the text of
the lines, and behind a margin, inside a block or among more lines it still does (`Text.StandsIn`).

A reader of code goes through it once and finds the names in it that are neither in a literal nor
names of members (`Code.names`). Those that end as label functions and option lists do are names of
helpers (`Code.helpers`). Code that ends where a new name may begin is whole, and what a whole piece
of code mentions does not depend on what follows (`Reads.append`).

Generated code holds texts that are pasted into it as they are, such as the name of a field behind a
record. Such insets are not code of the generator, and they may hold anything, so the reader finds
blanks in their place (`Code.Bare`). What is written around them mentions the same helpers whatever
they are (`Code.Mentions`).
-/
namespace Scaffold

namespace Text

/-- The piece is a part of one of the lines. -/
def StandsIn (piece : Text) (lines : List Text) : Prop := ∃ line ∈ lines, piece <:+: line

namespace StandsIn

variable {piece line opening closing : Text} {lines more : List Text}

/-- A part of a line stands in the lines. -/
theorem of_mem (inside : piece <:+: line) (member : line ∈ lines) : StandsIn piece lines :=
  ⟨line, member, inside⟩

/-- A part of what stands in lines stands in them. -/
theorem within {part : Text} (stands : StandsIn piece lines) (inside : part <:+: piece) :
    StandsIn part lines := by
  obtain ⟨line, member, holds⟩ := stands
  exact ⟨line, member, inside.trans holds⟩

/-- What stands in lines stands in more lines. -/
theorem mono (stands : StandsIn piece lines) (all : lines ⊆ more) : StandsIn piece more := by
  obtain ⟨line, member, inside⟩ := stands
  exact ⟨line, all member, inside⟩

/-- What stands in lines stands in them one step deeper. -/
theorem deeper (stands : StandsIn piece lines) : StandsIn piece (Code.deeper lines) := by
  obtain ⟨line, member, inside⟩ := stands
  refine ⟨_, List.mem_map.mpr ⟨line, member, rfl⟩, ?_⟩
  split
  · rename_i empty
    rwa [List.isEmpty_iff.mp empty] at inside
  · exact inside.trans (List.suffix_append _ _).isInfix

/-- What stands in the lines of a block stands in the block. -/
theorem block (stands : StandsIn piece lines) :
    StandsIn piece (Code.block opening lines closing) :=
  stands.deeper.mono fun _ member => List.mem_append_left _ (List.mem_cons_of_mem _ member)

/-- What is a part of the first line of a block stands in the block. -/
theorem first_line (inside : piece <:+: opening) :
    StandsIn piece (Code.block opening lines closing) :=
  of_mem inside List.mem_cons_self

end StandsIn

end Text

/-- A member is a part of a literal between braces. -/
theorem Code.infix_record {member : Text} {members : List Text} (own : member ∈ members) :
    member <:+: Code.record members := by
  have listed : member <:+: Text.commaList members := Text.infix_joinWith _ own
  exact listed.trans ⟨['\x7b', ' '], [' ', '\x7d'], by simp [record, Text.braced]⟩

namespace Markup

open Text

variable {list member name value tag : Text} {content : List Text} {attributes : List Attribute}

/-- A list whose members are written stands in their lines. -/
theorem standsIn_each : StandsIn list (each list member content) := by
  refine .first_line ?_
  simp only [List.append_assoc]
  exact ⟨['\x7b'], _, rfl⟩

/-- The expression of an attribute is a part of the head of its element. -/
theorem infix_head (own : .code name value ∈ attributes) : value <:+: head tag attributes := by
  have written : value <:+: Attribute.written (.code name value) :=
    ⟨' ' :: name ++ ['=', '\x7b'], ['\x7d'], by simp [Attribute.written, braced]⟩
  have listed : Attribute.written (.code name value) <:+: concat (attributes.map Attribute.written) :=
    List.infix_of_mem_flatten (List.mem_map.mpr ⟨_, own, rfl⟩)
  exact (written.trans listed).trans (List.suffix_append _ _).isInfix

/-- It is a part of an element without content. -/
theorem infix_empty (own : .code name value ∈ attributes) : value <:+: empty tag attributes :=
  (infix_head own).trans ⟨['<'], " />", rfl⟩

/-- It stands in the lines of an element with content. -/
theorem standsIn_element (own : .code name value ∈ attributes) :
    StandsIn value (element tag attributes content) :=
  .first_line ((infix_head own).trans ⟨['<'], ">", rfl⟩)

end Markup

end Scaffold

namespace Scaffold.Code

open Text

/-- Where a reader of code stands. -/
inductive Stand where
  /-- In code: behind the beginning of a name, with so many points in front of it. -/
  | code (name : Text) (points : Nat)
  /-- In a literal that a mark ends. -/
  | literal (mark : Char)
  /-- In such a literal, behind a backslash. -/
  | escaped (mark : Char)
deriving DecidableEq

namespace Stand

/-- A reader begins in code. -/
def start : Stand := code [] 0

/-- The name that ends where the reader stands. The name of a member, behind a single point, is none;
three points spread what is named behind them. -/
def ended : Stand → List Text
  | code name points => if name.isEmpty || points == 1 then [] else [name]
  | _ => []

/-- The names that end in front of a character. -/
def told (stand : Stand) (c : Char) : List Text := if isPlain c then [] else stand.ended

/-- Where a reader stands behind a character. A name is made of plain characters, so the names of
attributes with hyphens in them are one. -/
def next : Stand → Char → Stand
  | code name points, c =>
    if isPlain c then code (name ++ [c]) points
    else if c = '\'' ∨ c = '"' then literal c
    else if c = '.' then code [] (if name.isEmpty then points + 1 else 1)
    else start
  | literal mark, c => if c = '\\' then escaped mark else if c = mark then start else literal mark
  | escaped mark, _ => literal mark

end Stand

/-- The names in code, from where a reader stands. -/
def namesFrom : Stand → Text → List Text
  | stand, [] => stand.ended
  | stand, c :: rest => stand.told c ++ namesFrom (stand.next c) rest

/-- The names in code that are neither in a literal nor names of members. -/
def names (code : Text) : List Text := namesFrom .start code

/-- A name ends as those of option lists do. -/
def isListName (name : Text) : Bool := endsWith name "Options"

/-- A name ends as those of label functions or option lists do. -/
def isHelperName (name : Text) : Bool := endsWith name "Label" || isListName name

/-- The label functions and option lists that code refers to by name. -/
def helpers (code : Text) : List Text := (names code).filter isHelperName

/-- A reader that went through the code stands where a new name may begin. -/
def IsWhole (code : Text) : Prop := code.foldl Stand.next .start = .start

/-- Whether code is whole is decided by reading it. -/
instance (code : Text) : Decidable (IsWhole code) := inferInstanceAs (Decidable (_ = _))

/-- What stands in the place of an inset: a blank, unless the inset is empty. -/
def blank (inset : Text) : Text := if inset.isEmpty then [] else [' ']

/-- Blanks stand in code in the place of some of the insets. -/
inductive Bare (insets : List Text) : Text → Text → Prop
  /-- There is no code. -/
  | nil : Bare insets [] []
  /-- A character of the code. -/
  | char (c : Char) {code bare : Text} (rest : Bare insets code bare) :
      Bare insets (c :: code) (c :: bare)
  /-- A blank in the place of an inset. -/
  | inset {inset code bare : Text} (listed : inset ∈ insets) (filled : inset ≠ [])
      (rest : Bare insets code bare) : Bare insets (inset ++ code) (' ' :: bare)

/-- Around the insets the code mentions these helpers. -/
def Mentions (insets : List Text) (code : Text) (found : List Text) : Prop :=
  ∃ bare, Bare insets code bare ∧ helpers bare = found

variable {code other rest word : Text} {found more : List Text} {lines others : List Text}

/-- What a reader finds behind code does not depend on the code if a new name may begin there. -/
theorem namesFrom_append {stand : Stand} (whole : code.foldl Stand.next stand = .start)
    (rest : Text) : namesFrom stand (code ++ rest) = namesFrom stand code ++ names rest := by
  induction code generalizing stand with
  | nil =>
    obtain rfl : stand = .start := whole
    rfl
  | cons c code ih =>
    rw [List.cons_append, namesFrom, namesFrom, ih whole, List.append_assoc]

/-- The name of an option list is one of a helper. -/
theorem isHelperName_optionsName (name : Text) : isHelperName (optionsName name) = true := by
  have ends : isListName (optionsName name) = true :=
    List.isSuffixOf_iff_suffix.mpr (List.suffix_append _ _)
  rw [isHelperName, ends, Bool.or_true]

/-- So is that of a label function. -/
theorem isHelperName_labelFunction (name : Text) : isHelperName (labelFunction name) = true := by
  have ends : endsWith (labelFunction name) "Label" = true :=
    List.isSuffixOf_iff_suffix.mpr (List.suffix_append _ _)
  rw [isHelperName, ends, Bool.true_or]

/-- Code that is whole and mentions these helpers. -/
structure Reads (code : Text) (found : List Text) : Prop where
  /-- A new name may begin behind it. -/
  whole : IsWhole code
  /-- These helpers are in it. -/
  helpers : Code.helpers code = found

/-- Whether code mentions certain helpers is decided by reading it. -/
instance (code : Text) (found : List Text) : Decidable (Reads code found) :=
  decidable_of_iff (IsWhole code ∧ Code.helpers code = found) ⟨fun both => ⟨both.1, both.2⟩,
    fun reads => ⟨reads.whole, reads.helpers⟩⟩

namespace Reads

/-- Pieces of code mention what each of them mentions. -/
theorem append (first : Reads code found) (second : Reads other more) :
    Reads (code ++ other) (found ++ more) where
  whole := by
    rw [IsWhole, List.foldl_append, first.whole, second.whole]
  helpers := by
    rw [Code.helpers, Code.names, namesFrom_append first.whole, List.filter_append, ← first.helpers,
      ← second.helpers]
    rfl

/-- Behind the beginning of a name the reader goes on with the name. -/
theorem foldl_plain (plain : IsPlain word) (before : Text) (points : Nat) :
    word.foldl Stand.next (.code before points) = .code (before ++ word) points := by
  induction word generalizing before with
  | nil => simp
  | cons c word ih =>
    have letter := plain c List.mem_cons_self
    rw [List.foldl_cons, Stand.next, if_pos letter,
      ih fun d member => plain d (List.mem_cons_of_mem c member), List.append_assoc,
      List.singleton_append]

/-- While it does it finds no other one. -/
theorem namesFrom_plain (plain : IsPlain word) (before : Text) (points : Nat) (rest : Text) :
    namesFrom (.code before points) (word ++ rest) =
      namesFrom (.code (before ++ word) points) rest := by
  induction word generalizing before with
  | nil => simp
  | cons c word ih =>
    have letter := plain c List.mem_cons_self
    rw [List.cons_append, namesFrom, Stand.told, if_pos letter, Stand.next, if_pos letter,
      ih fun d member => plain d (List.mem_cons_of_mem c member), List.append_assoc,
      List.singleton_append, List.nil_append]

/-- A name is found in front of code that does not go on with it, if it is one of a helper. -/
theorem name {c : Char} (plain : IsPlain word) (apart : isPlain c = false)
    (behind : Reads (c :: rest) found) :
    Reads (word ++ c :: rest) ([word].filter isHelperName ++ found) := by
  cases word with
  | nil => exact behind
  | cons first word =>
    have other : isPlain c ≠ true := by simp [apart]
    have same : Stand.next (.code (first :: word) 0) c = Stand.next .start c := by
      simp [Stand.next, Stand.start, other]
    have read : (Stand.code (first :: word) 0).told c = [first :: word] := by
      simp [Stand.told, Stand.ended, apart]
    have silent : Stand.start.told c = [] := by simp [Stand.told, Stand.ended, Stand.start]
    constructor
    · have whole := behind.whole
      rw [IsWhole, List.foldl_cons] at whole
      rw [IsWhole, List.foldl_append, Stand.start, foldl_plain plain, List.nil_append,
        List.foldl_cons, same, whole]
      rfl
    · have helpers := behind.helpers
      rw [Code.helpers, Code.names, namesFrom, silent, List.nil_append] at helpers
      rw [Code.helpers, Code.names, Stand.start, namesFrom_plain plain, List.nil_append, namesFrom,
        same, read, List.filter_append, helpers]

/-- A helper is found there. -/
theorem helper {c : Char} (plain : IsPlain word) (named : isHelperName word = true)
    (apart : isPlain c = false) (behind : Reads (c :: rest) found) :
    Reads (word ++ c :: rest) (word :: found) := by
  have read := name plain apart behind
  rwa [List.filter_cons_of_pos named] at read

/-- The characters of a literal lead on in the literal. -/
theorem foldl_escaped (text : Text) : (text.flatMap escapeChar).foldl Stand.next (.literal '\'') =
    .literal '\'' := by
  induction text with
  | nil => rfl
  | cons c text ih =>
    rw [List.flatMap_cons, List.foldl_append]
    refine (congrArg (List.foldl Stand.next · _) ?_).trans ih
    by_cases special : c = '\\' ∨ c = '\''
    · simp [escapeChar, special, Stand.next]
    · obtain ⟨slash, mark⟩ := not_or.mp special
      simp [escapeChar, slash, mark, Stand.next]

/-- No name is found in a literal. -/
theorem namesFrom_escaped (text rest : Text) :
    namesFrom (.literal '\'') (text.flatMap escapeChar ++ rest) = namesFrom (.literal '\'') rest := by
  induction text with
  | nil => rfl
  | cons c text ih =>
    rw [List.flatMap_cons, List.append_assoc]
    by_cases special : c = '\\' ∨ c = '\''
    · simp [escapeChar, special, namesFrom, Stand.told, Stand.ended, Stand.next, ih]
    · obtain ⟨slash, mark⟩ := not_or.mp special
      simp [escapeChar, slash, mark, namesFrom, Stand.told, Stand.ended, Stand.next, ih]

/-- A literal mentions no helper. -/
theorem quote (text : Text) : Reads (Text.quote text) [] := by
  constructor
  · rw [IsWhole, Text.quote, List.cons_append, List.foldl_cons, List.foldl_append,
      show Stand.next .start '\'' = .literal '\'' from rfl, foldl_escaped]
    rfl
  · rw [Code.helpers, Code.names, Text.quote, List.cons_append, namesFrom,
      show Stand.next .start '\'' = .literal '\'' from rfl, namesFrom_escaped]
    rfl

/-- Code between braces. -/
theorem braced (inner : Reads code found) : Reads (Text.braced code) found := by
  have opening : Reads ['\x7b'] [] := by decide
  have closing : Reads ['\x7d'] [] := by decide
  have whole := (opening.append inner).append closing
  rwa [List.nil_append, List.append_nil] at whole

end Reads

/-- Lines of code that mention these helpers: behind the line feed a new name may begin. -/
inductive ReadsLines : List Text → List Text → Prop
  /-- There are no lines. -/
  | nil : ReadsLines [] []
  /-- A line and the lines below. -/
  | cons {line : Text} {lines found more : List Text} (first : Reads (line ++ ['\n']) found)
      (others : ReadsLines lines more) : ReadsLines (line :: lines) (found ++ more)

/-- A line feed behind code mentions no helper. -/
theorem Reads.line (reads : Reads code found) : Reads (code ++ ['\n']) found := by
  have feed : Reads ['\n'] [] := by decide
  have whole := reads.append feed
  rwa [List.append_nil] at whole

/-- It ends no name that the end of the code does not. -/
theorem namesFrom_feed (stand : Stand) (code : Text) :
    namesFrom stand (code ++ ['\n']) = namesFrom stand code := by
  induction code generalizing stand with
  | nil =>
    have odd : isPlain '\n' = false := by decide
    cases stand with
    | code name points => simp [namesFrom, Stand.told, Stand.next, odd, Stand.ended, Stand.start]
    | literal mark =>
      by_cases same : '\n' = mark
      · subst same
        rfl
      · simp [namesFrom, Stand.told, Stand.next, same, Stand.ended]
    | escaped mark => simp [namesFrom, Stand.told, Stand.next, odd, Stand.ended]
  | cons c code ih => rw [List.cons_append, namesFrom, namesFrom, ih]

namespace ReadsLines

/-- A single line. -/
theorem single (reads : Reads code found) : ReadsLines [code] found := by
  have alone := cons reads.line .nil
  rwa [List.append_nil] at alone

/-- Lines of which none mentions a helper. -/
theorem silent (reads : ∀ line ∈ lines, Reads (line ++ ['\n']) []) : ReadsLines lines [] := by
  induction lines with
  | nil => exact .nil
  | cons line lines ih =>
    exact .cons (reads line List.mem_cons_self) (ih fun _ later => reads _ (.tail _ later))

/-- Lines above others. -/
theorem append (first : ReadsLines lines found) (second : ReadsLines others more) :
    ReadsLines (lines ++ others) (found ++ more) := by
  induction first with
  | nil => exact second
  | cons line _ ih =>
    rw [List.append_assoc]
    exact .cons line ih

/-- A margin mentions no helper. -/
theorem deeper (reads : ReadsLines lines found) : ReadsLines (Code.deeper lines) found := by
  induction reads with
  | nil => exact .nil
  | @cons line lines _ _ first _ ih =>
    refine .cons ?_ ih
    show Reads ((if line.isEmpty then [] else step ++ line) ++ ['\n']) _
    split
    · rename_i empty
      rwa [List.isEmpty_iff.mp empty] at first
    · have margin : Reads step [] := by decide
      rw [List.append_assoc]
      exact margin.append first

/-- The lines of a block. -/
theorem block {opening closing : Text} {front back : List Text} (first : Reads opening front)
    (inner : ReadsLines lines found) (last : Reads closing back) :
    ReadsLines (Code.block opening lines closing) (front ++ found ++ back) :=
  (cons first.line inner.deeper).append (single last)

/-- The lines of a block whose first and last line mention no helper. -/
theorem inside {opening closing : Text} (first : Reads opening [])
    (inner : ReadsLines lines found) (last : Reads closing []) :
    ReadsLines (Code.block opening lines closing) found := by
  have whole := block first inner last
  rwa [List.nil_append, List.append_nil] at whole

/-- The text of lines, with a line feed at the end, mentions what the lines mention. -/
theorem unlines_feed {line : Text} (reads : ReadsLines (line :: lines) found) :
    Reads (unlines (line :: lines) ++ ['\n']) found := by
  induction lines generalizing line found with
  | nil =>
    rcases reads with _ | ⟨first, ⟨⟩⟩
    rwa [List.append_nil]
  | cons next later ih =>
    rcases reads with _ | ⟨first, others⟩
    show Reads (line ++ ['\n'] ++ unlines (next :: later) ++ ['\n']) _
    rw [List.append_assoc]
    exact first.append (ih others)

/-- So does the text of lines. -/
theorem helpers_unlines (reads : ReadsLines lines found) : helpers (unlines lines) = found := by
  have feed (code : Text) : helpers (code ++ ['\n']) = helpers code :=
    congrArg (List.filter isHelperName) (namesFrom_feed .start code)
  cases lines with
  | nil =>
    cases reads
    rfl
  | cons line lines => rw [← reads.unlines_feed.helpers, feed]

end ReadsLines

variable {insets : List Text} {bare plain : Text}

namespace Bare

/-- The code itself has blanks in the place of no insets. -/
theorem refl (code : Text) : Bare insets code code := by
  induction code with
  | nil => exact .nil
  | cons c code ih => exact .char c ih

/-- Pieces of code. -/
theorem append (first : Bare insets code bare) (second : Bare insets other plain) :
    Bare insets (code ++ other) (bare ++ plain) := by
  induction first with
  | nil => exact second
  | char c _ ih => exact .char c ih
  | inset listed filled _ ih =>
    rw [List.append_assoc]
    exact .inset listed filled ih

/-- An inset alone. -/
theorem alone {inset : Text} (listed : inset ∈ insets) (filled : inset ≠ []) :
    Bare insets inset [' '] := by
  have single := Bare.inset listed filled (.nil : Bare insets [] [])
  rwa [List.append_nil] at single

/-- A reader finds a blank in the place of an inset, unless the inset is empty. -/
theorem blank {inset : Text} (listed : inset ∈ insets) : Bare insets inset (Code.blank inset) := by
  unfold Code.blank
  cases inset with
  | nil => exact .nil
  | cons c rest => exact .alone listed (List.cons_ne_nil c rest)

/-- Code between braces. -/
theorem braced (inner : Bare insets code bare) :
    Bare insets (Text.braced code) (Text.braced bare) :=
  .char _ (inner.append (refl _))

end Bare

/-- Two texts that go on alike are both not empty. -/
theorem isEmpty_append_cons (text other : Text) (c : Char) (rest : Text) :
    (text ++ c :: rest).isEmpty = (other ++ c :: rest).isEmpty := by
  cases text <;> cases other <;> rfl

/-- Lines with blanks in the place of insets. -/
inductive BareLines (insets : List Text) : List Text → List Text → Prop
  /-- There are no lines. -/
  | nil : BareLines insets [] []
  /-- A line, which is empty with the insets and with the blanks or neither way, and others. -/
  | cons {code bare : Text} {lines others : List Text} (first : Bare insets code bare)
      (alike : code.isEmpty = bare.isEmpty) (rest : BareLines insets lines others) :
      BareLines insets (code :: lines) (bare :: others)

namespace BareLines

variable {below under : List Text}

/-- Lines without insets. -/
theorem refl (lines : List Text) : BareLines insets lines lines := by
  induction lines with
  | nil => exact .nil
  | cons line lines ih => exact .cons (.refl line) rfl ih

/-- A single line. -/
theorem single (line : Bare insets code bare) (alike : code.isEmpty = bare.isEmpty) :
    BareLines insets [code] [bare] := .cons line alike .nil

/-- Lines above others. -/
theorem append (first : BareLines insets lines others) (second : BareLines insets below under) :
    BareLines insets (lines ++ below) (others ++ under) := by
  induction first with
  | nil => exact second
  | cons line alike _ ih => exact .cons line alike ih

/-- Lines one step deeper. -/
theorem deeper (bare : BareLines insets lines others) :
    BareLines insets (Code.deeper lines) (Code.deeper others) := by
  induction bare with
  | nil => exact .nil
  | @cons code bare lines others first alike _ ih =>
    have same : (if code.isEmpty then [] else step ++ code).isEmpty =
        (if bare.isEmpty then [] else step ++ bare).isEmpty := by
      rw [alike]
      split <;> rfl
    refine .cons ?_ same ih
    show Bare insets (if code.isEmpty then [] else step ++ code)
      (if bare.isEmpty then [] else step ++ bare)
    rw [alike]
    split
    · exact .nil
    · exact (Bare.refl step).append first

/-- Lines between two others. -/
theorem block {opening head closing tail : Text} (first : Bare insets opening head)
    (alike : opening.isEmpty = head.isEmpty) (inner : BareLines insets lines others)
    (last : Bare insets closing tail) (same : closing.isEmpty = tail.isEmpty) :
    BareLines insets (Code.block opening lines closing) (Code.block head others tail) :=
  (cons first alike inner.deeper).append (single last same)

/-- Lines with a separator between neighbours. -/
theorem joinWith (separator : Text) (bare : BareLines insets lines others) :
    Bare insets (Text.joinWith separator lines) (Text.joinWith separator others) := by
  induction bare with
  | nil => exact .nil
  | cons first _ rest ih =>
    cases rest with
    | nil => exact first
    | cons next alike later => exact (first.append (.refl separator)).append ih

/-- The text of lines. -/
theorem unlines (bare : BareLines insets lines others) :
    Bare insets (Text.unlines lines) (Text.unlines others) := bare.joinWith ['\n']

/-- A literal between braces on one line. -/
theorem record (bare : BareLines insets lines others) :
    Bare insets (Code.record lines) (Code.record others) :=
  Bare.braced (.char ' ' ((bare.joinWith _).append (.refl [' '])))

end BareLines

end Scaffold.Code

namespace Scaffold

open Code

namespace Markup

variable {insets : List Text} {code bare tag name member : Text} {own others : List Attribute}
  {lines below : List Text}

/-- Attributes with blanks in the place of insets. -/
inductive BareAttributes (insets : List Text) : List Attribute → List Attribute → Prop
  /-- There are no attributes. -/
  | nil : BareAttributes insets [] []
  /-- An attribute and others. -/
  | cons {first second : Attribute} {own others : List Attribute}
      (written : Bare insets first.written second.written)
      (rest : BareAttributes insets own others) :
      BareAttributes insets (first :: own) (second :: others)

/-- Attributes without insets. -/
theorem bareAttributes_refl (own : List Attribute) : BareAttributes insets own own := by
  induction own with
  | nil => exact .nil
  | cons first _ ih => exact .cons (.refl _) ih

/-- The text of an attribute. -/
theorem bare_text (inner : Bare insets code bare) :
    Bare insets (Attribute.written (.text name code)) (Attribute.written (.text name bare)) :=
  ((Bare.refl _).append inner).append (.refl _)

/-- The expression of an attribute. -/
theorem bare_code (inner : Bare insets code bare) :
    Bare insets (Attribute.written (.code name code)) (Attribute.written (.code name bare)) :=
  (Bare.refl (' ' :: name)).append (.char '=' inner.braced)

/-- The name of an element with its attributes. -/
theorem bare_head (written : BareAttributes insets own others) :
    Bare insets (head tag own) (head tag others) := by
  refine (Bare.refl tag).append ?_
  induction written with
  | nil => exact .nil
  | cons first _ ih => exact first.append ih

/-- The tag at the front of an element. -/
theorem bare_opening (written : BareAttributes insets own others) :
    Bare insets (opening tag own) (opening tag others) :=
  .char '<' ((bare_head written).append (.refl _))

/-- An element without content. -/
theorem bare_empty (written : BareAttributes insets own others) :
    Bare insets (empty tag own) (empty tag others) :=
  .char '<' ((bare_head written).append (.refl _))

/-- An element with its content on the same line. -/
theorem bare_inline (written : BareAttributes insets own others) (inner : Bare insets code bare) :
    Bare insets (inline tag own code) (inline tag others bare) :=
  ((bare_opening written).append inner).append (.refl _)

/-- An element around lines. -/
theorem bareLines_element (written : BareAttributes insets own others)
    (inner : BareLines insets lines below) :
    BareLines insets (element tag own lines) (element tag others below) :=
  .block (bare_opening written) rfl inner (.refl _) rfl

/-- Lines for every member of a list. -/
theorem bareLines_each (items : Bare insets code bare) (inner : BareLines insets lines below) :
    BareLines insets (each code member lines) (each bare member below) :=
  .block (.char _ (((items.append (.refl _)).append (.refl _)).append (.refl _))) rfl inner
    (.refl _) rfl

end Markup

end Scaffold
