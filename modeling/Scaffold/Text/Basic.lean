/-!
# Text

Every rule of this library reads its input character by character, so text is a list of
characters: splitting, searching and writing are recursions on that list. String literals stand
for their characters. This module has the operations that build text from parts and cut a known
end off it.
-/
namespace Scaffold

/-- A text, first character first. -/
abbrev Text := List Char

/-- A literal is written as a string and means its characters. -/
instance : Coe String Text := ⟨String.toList⟩

namespace Text

/-- The characters that a literal stands for. The kernel takes a literal apart at once, but decodes
the bytes of `String.toList` one after the other; a goal about literals is evaluated faster with
their characters in it. -/
theorem toList_literal {literal : String} {characters : List Char}
    (spelled : literal = String.ofList characters) : literal.toList = characters := by
  rw [spelled, String.toList_ofList]

/-- Texts that test as the same are the same. An instance that decides membership in a list of texts
refers to this one. -/
instance lawfulBEq : LawfulBEq Text := List.instLawfulBEq

/-- What holds of every character of a text is decided by going through the text, not through all
characters. -/
instance decidableForallMem (text : Text) (holds : Char → Prop) [DecidablePred holds] :
    Decidable (∀ c ∈ text, holds c) :=
  List.decidableBAll holds text

/-- The parts one after the other. -/
def concat (parts : List Text) : Text := parts.flatten

/-- The parts with a separator between neighbours. -/
def joinWith (separator : Text) : List Text → Text
  | [] => []
  | [part] => part
  | part :: next :: rest => part ++ separator ++ joinWith separator (next :: rest)

/-- Lines of text with a line feed between neighbours and none after the last. -/
def unlines (lines : List Text) : Text := joinWith ['\n'] lines

/-- Parts as a list in prose: a comma and a blank between neighbours. -/
def commaList (parts : List Text) : Text := joinWith ", " parts

/-- A number in decimal digits. -/
def ofNat (value : Nat) : Text := Nat.toDigits 10 value

/-- A text between braces. -/
def braced (inner : Text) : Text := '\x7b' :: inner ++ ['\x7d']

/-- The text of a character takes one byte. -/
def isSingleByte (c : Char) : Bool := c.toNat < 0x80

/-- The text begins with `start`. -/
def startsWith (text start : Text) : Bool := start.isPrefixOf text

/-- The text ends with `ending`. -/
def endsWith (text ending : Text) : Bool := ending.isSuffixOf text

/-- What follows `start`, when the text begins with it. -/
def afterStart? : Text → Text → Option Text
  | text, [] => some text
  | [], _ :: _ => none
  | c :: text, s :: start => if c = s then afterStart? text start else none

/-- What precedes `ending`, when the text ends with it. -/
def beforeEnd? (text ending : Text) : Option Text :=
  (afterStart? text.reverse ending.reverse).map List.reverse

/-- The longest end of the text made of characters that satisfy `drop` is left out. -/
def dropEndWhile (text : Text) (drop : Char → Bool) : Text :=
  (text.reverse.dropWhile drop).reverse

/-- The longest start of the text made of characters that satisfy `drop` is left out. -/
def dropStartWhile (text : Text) (drop : Char → Bool) : Text := text.dropWhile drop

/-- A stretch of text that is there reads back as what follows it. -/
theorem afterStart?_append (start rest : Text) : afterStart? (start ++ rest) start = some rest := by
  induction start with
  | nil => cases rest <;> rfl
  | cons c start ih => simp [afterStart?, ih]

/-- What follows a start, put behind it, is the text. -/
theorem eq_append_of_afterStart? {text start rest : Text}
    (found : afterStart? text start = some rest) : text = start ++ rest := by
  induction start generalizing text with
  | nil => cases text <;> simp_all [afterStart?]
  | cons s start ih =>
    cases text with
    | nil => simp [afterStart?] at found
    | cons c text =>
      by_cases same : c = s
      · subst same
        simp only [afterStart?, ↓reduceIte] at found
        rw [ih found, List.cons_append]
      · simp [afterStart?, same] at found

end Text

/-- The first occurrence of every element, in order. -/
def firstOccurrences {α : Type} [DecidableEq α] : List α → List α
  | [] => []
  | value :: rest => value :: (firstOccurrences rest).filter (· ≠ value)

/-- Keeping first occurrences keeps the members. -/
theorem mem_firstOccurrences {α : Type} [DecidableEq α] {value : α} {values : List α} :
    value ∈ firstOccurrences values ↔ value ∈ values := by
  induction values with
  | nil => simp [firstOccurrences]
  | cons head rest ih =>
    simp only [firstOccurrences, List.mem_cons, List.mem_filter, decide_eq_true_eq, ih]
    grind

/-- First occurrences are pairwise distinct. -/
theorem nodup_firstOccurrences {α : Type} [DecidableEq α] (values : List α) :
    (firstOccurrences values).Nodup := by
  induction values with
  | nil => simp [firstOccurrences]
  | cons head rest ih =>
    simp only [firstOccurrences, List.nodup_cons, List.mem_filter, decide_eq_true_eq]
    exact ⟨fun member => member.2 rfl, ih.filter _⟩

end Scaffold
