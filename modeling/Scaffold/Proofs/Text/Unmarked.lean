import Scaffold.Code.Identifier
import Scaffold.Code.Markup
import Scaffold.Proofs.Names
import Scaffold.Proofs.Text.Atom
import Scaffold.Template

/-!
# Texts without percent signs

A token of a template stands between percent signs, so a text without any holds no token and cannot
become part of one. Whatever writes code from such texts writes such texts: each way of putting
text together has its rule here, and a literal is checked as the list of its characters
(`unmarked_literal`). Case forms add plain characters alone, which percent signs are not.
-/
namespace Scaffold

namespace Text

/-- No percent sign stands in the text. -/
def Unmarked (text : Text) : Prop := '%' ∉ text

/-- No percent sign stands in the lines. -/
def AllUnmarked (lines : List Text) : Prop := ∀ line ∈ lines, Unmarked line

variable {text other : Text} {lines more : List Text} {α : Type}

/-- The empty text holds none. -/
@[simp]
theorem unmarked_nil : Unmarked [] := List.not_mem_nil

/-- A character in front that is none adds none. -/
@[simp]
theorem unmarked_cons {c : Char} : Unmarked (c :: text) ↔ c ≠ '%' ∧ Unmarked text := by
  simp only [Unmarked, List.mem_cons, not_or, ne_comm (a := c), ne_eq]

/-- Two parts hold none if neither does. -/
@[simp]
theorem unmarked_append : Unmarked (text ++ other) ↔ Unmarked text ∧ Unmarked other := by
  simp only [Unmarked, List.mem_append, not_or]

/-- A literal is spelled by characters, of which none is a percent sign. -/
inductive Spelled (literal : String) : Prop where
  /-- It is the list of these characters. -/
  | of {text : Text} (letters : literal = String.ofList text) (absent : text.contains '%' = false)

/-- A literal spelled without percent signs holds none. -/
@[simp]
theorem unmarked_literal {literal : String} (spelled : Spelled literal) :
    Unmarked literal.toList := by
  obtain ⟨rfl, absent⟩ := spelled
  rw [String.toList_ofList]
  simpa [Unmarked] using absent

/-- A choice holds none if neither text does under its own condition. -/
@[simp]
theorem unmarked_ite {condition : Prop} [Decidable condition] :
    Unmarked (if condition then text else other) ↔
      (condition → Unmarked text) ∧ (¬condition → Unmarked other) := by
  split <;> simp_all

/-- A part of a text without percent signs holds none. -/
theorem Unmarked.subset (clean : Unmarked other) (part : text ⊆ other) : Unmarked text :=
  fun inside => clean (part inside)

/-- A plain text holds none. -/
theorem IsPlain.unmarked (plain : IsPlain text) : Unmarked text := plain.notMem (by decide)

/-- The empty list of lines holds none. -/
@[simp]
theorem allUnmarked_nil : AllUnmarked [] := fun _ member => absurd member List.not_mem_nil

/-- A line in front adds its own. -/
@[simp]
theorem allUnmarked_cons : AllUnmarked (text :: lines) ↔ Unmarked text ∧ AllUnmarked lines :=
  List.forall_mem_cons

/-- Lines and more lines hold none if neither do. -/
@[simp]
theorem allUnmarked_append : AllUnmarked (lines ++ more) ↔ AllUnmarked lines ∧ AllUnmarked more :=
  List.forall_mem_append

/-- Lines made of members hold none if none of them does. -/
@[simp]
theorem allUnmarked_map {members : List α} {write : α → Text} :
    AllUnmarked (members.map write) ↔ ∀ member ∈ members, Unmarked (write member) :=
  List.forall_mem_map

/-- The same of several lines for each member. -/
@[simp]
theorem allUnmarked_flatMap {members : List α} {write : α → List Text} :
    AllUnmarked (members.flatMap write) ↔ ∀ member ∈ members, AllUnmarked (write member) :=
  List.forall_mem_flatMap

/-- A choice of lines holds none if neither do under their own condition. -/
@[simp]
theorem allUnmarked_ite {condition : Prop} [Decidable condition] :
    AllUnmarked (if condition then lines else more) ↔
      (condition → AllUnmarked lines) ∧ (¬condition → AllUnmarked more) := by
  split <;> simp_all

/-- Some of the lines hold none if all do. -/
theorem AllUnmarked.subset (clean : AllUnmarked more) (part : lines ⊆ more) : AllUnmarked lines :=
  fun line member => clean line (part member)

/-- Joined texts hold none if their separator and each of them do not. -/
theorem AllUnmarked.joinWith {separator : Text} (clean : AllUnmarked lines)
    (between : Unmarked separator) : Unmarked (joinWith separator lines) := by
  intro inside
  rcases mem_joinWith inside with here | ⟨line, member, there⟩
  · exact between here
  · exact clean line member there

/-- Joined texts hold none exactly if none of them does. -/
theorem unmarked_joinWith {separator : Text} (between : Unmarked separator) :
    Unmarked (joinWith separator lines) ↔ AllUnmarked lines :=
  ⟨fun clean _ member inside => clean (mem_joinWith_of_mem separator member inside),
    fun clean => clean.joinWith between⟩

/-- Lines in one text. -/
@[simp]
theorem unmarked_unlines : Unmarked (unlines lines) ↔ AllUnmarked lines :=
  unmarked_joinWith (by unfold Unmarked; decide)

/-- A list in prose. -/
@[simp]
theorem unmarked_commaList : Unmarked (commaList lines) ↔ AllUnmarked lines :=
  unmarked_joinWith (by unfold Unmarked; decide)

/-- Parts one after the other. -/
@[simp]
theorem unmarked_concat : Unmarked (concat lines) ↔ AllUnmarked lines := by
  simp only [Unmarked, concat, List.mem_flatten, not_exists, not_and, AllUnmarked]

/-- A text between braces. -/
@[simp]
theorem unmarked_braced : Unmarked (braced text) ↔ Unmarked text := by
  simp [braced]

/-- A literal in code. -/
@[simp]
theorem unmarked_quote : Unmarked (quote text) ↔ Unmarked text := by
  refine ⟨fun clean inside => clean ?_, notMem_quote (by decide) (by decide)⟩
  refine List.mem_cons_of_mem _ (List.mem_append_left _ (List.mem_flatMap.mpr ⟨_, inside, ?_⟩))
  decide

/-- Several literals in code. -/
@[simp]
theorem unmarked_quoteList : Unmarked (quoteList lines) ↔ AllUnmarked lines := by
  simp [quoteList, AllUnmarked]

/-- A number is written in digits. -/
@[simp]
theorem unmarked_ofNat (value : Nat) : Unmarked (ofNat value) :=
  (plain_ofNat value).notMem (by decide)

/-- A case form of a character is plain or the character itself. -/
theorem isPlain_or_eq_of_mem_mapCase {expansions : List (Nat × List Nat)} {runs : List CaseRun}
    (several : ∀ expansion ∈ expansions, ∀ code ∈ expansion.2, isPlainCode code = true)
    (safe : ∀ run ∈ runs, run.isSafe = true) {c d : Char} (inside : d ∈ mapCase expansions runs c) :
    isPlain d = true ∨ d = c := by
  unfold mapCase at inside
  split at inside
  · rename_i codes found
    obtain ⟨before, after, split, -⟩ := List.lookup_eq_some_iff.mp found
    obtain ⟨code, listed, rfl⟩ := List.mem_map.mp inside
    exact .inl (several (c.toNat, codes) (by rw [split]; simp) code listed)
  · split at inside
    · rename_i code found
      obtain ⟨run, listed, image⟩ := List.exists_of_findSome?_eq_some found
      rw [List.mem_singleton.mp inside]
      exact .inl (isPlainCode_of_image? (safe run listed) image)
    · exact .inr (List.mem_singleton.mp inside)

/-- The simple case forms of a character of ASCII are plain or the character itself. -/
theorem isPlain_or_eq_ascii : ∀ code < 0x80,
    (isPlain (Char.ofNat code).toLower = true ∨ (Char.ofNat code).toLower = Char.ofNat code) ∧
      (isPlain (Char.ofNat code).toUpper = true ∨ (Char.ofNat code).toUpper = Char.ofNat code) := by
  decide

/-- The lower case form of a character is plain or the character itself. -/
theorem isPlain_or_eq_of_mem_lowerChar {c d : Char} (inside : d ∈ lowerChar c) :
    isPlain d = true ∨ d = c := by
  unfold lowerChar at inside
  split at inside
  · rename_i ascii
    have form := (isPlain_or_eq_ascii c.toNat ascii).1
    rw [Char.ofNat_toNat] at form
    rwa [List.mem_singleton.mp inside]
  · exact isPlain_or_eq_of_mem_mapCase isPlainCode_of_expansion.1 isSafe_of_mem.1 inside

/-- The upper case form of a character is plain or the character itself. -/
theorem isPlain_or_eq_of_mem_upperChar {c d : Char} (inside : d ∈ upperChar c) :
    isPlain d = true ∨ d = c := by
  unfold upperChar at inside
  split at inside
  · rename_i ascii
    have form := (isPlain_or_eq_ascii c.toNat ascii).2
    rw [Char.ofNat_toNat] at form
    rwa [List.mem_singleton.mp inside]
  · exact isPlain_or_eq_of_mem_mapCase isPlainCode_of_expansion.2 isSafe_of_mem.2 inside

/-- A text in lower case holds plain characters and characters of the text. -/
theorem Unmarked.lower (clean : Unmarked text) : Unmarked (lower text) := by
  suffices ∀ before, Unmarked (lowerAfter before text) from this []
  induction text with
  | nil => exact fun _ => unmarked_nil
  | cons c rest ih =>
    obtain ⟨own, others⟩ := unmarked_cons.mp clean
    intro before
    refine unmarked_append.mpr ⟨?_, ih others (c :: before)⟩
    split
    · simp only [unmarked_ite]
      exact ⟨fun _ => by unfold Unmarked; decide, fun _ => by unfold Unmarked; decide⟩
    · intro inside
      rcases isPlain_or_eq_of_mem_lowerChar inside with plain | same
      · exact absurd plain (by decide)
      · exact own same.symm

/-- Capitalising a text adds no percent sign. -/
theorem Unmarked.capitalized (clean : Unmarked text) : Unmarked (capitalized text) := by
  cases text with
  | nil => exact unmarked_nil
  | cons c rest =>
    obtain ⟨own, others⟩ := unmarked_cons.mp clean
    refine unmarked_append.mpr ⟨fun inside => ?_, others⟩
    rcases isPlain_or_eq_of_mem_upperChar inside with plain | same
    · exact absurd plain (by decide)
    · exact own same.symm

/-- The words shown for a name hold none if the name does not. -/
theorem Unmarked.labelFor (clean : Unmarked text) : Unmarked (labelFor text) := by
  refine AllUnmarked.joinWith (fun part member => ?_) (by unfold Unmarked; decide)
  obtain ⟨piece, kept, rfl⟩ := List.mem_map.mp member
  exact (clean.subset (subset_of_mem_splitWhere (List.mem_filter.mp kept).1)).capitalized

/-- A name in one of the casings of code is plain. -/
@[simp]
theorem unmarked_lowerCamelCase (name : Text) : Unmarked (lowerCamelCase name) :=
  (plain_lowerCamelCase name).unmarked

/-- The same of capitalised words. -/
@[simp]
theorem unmarked_upperCamelCase (name : Text) : Unmarked (upperCamelCase name) :=
  (plain_upperCamelCase name).unmarked

/-- The same of words with underscores. -/
@[simp]
theorem unmarked_snakeCase (name : Text) : Unmarked (snakeCase name) :=
  (plain_snakeCase name).unmarked

/-- The same of words with hyphens. -/
@[simp]
theorem unmarked_kebabCase (name : Text) : Unmarked (kebabCase name) :=
  (plain_kebabCase name).unmarked

/-- Lines of a text behind a margin. -/
theorem Unmarked.indentLines {margin : Text} (clean : Unmarked text) (blank : Unmarked margin) :
    AllUnmarked (indentLines margin text) := by
  intro line member
  obtain ⟨own, listed, rfl⟩ := List.mem_map.mp member
  simp only [unmarked_ite, unmarked_nil, unmarked_append]
  exact ⟨fun _ => trivial, fun _ => ⟨blank, clean.subset (infix_of_mem_lines listed).subset⟩⟩

end Text

end Scaffold
