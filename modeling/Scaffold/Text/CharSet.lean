import Scaffold.Text.Blank
import Scaffold.Text.Case
import Scaffold.Text.Category

/-!
# Sets of characters

The sets of characters that a pattern can name, and which characters they hold. A set is built
from ranges and kinds of characters by union, intersection, difference and complement. Where case
is ignored, a set holds a character if it holds any letter that differs from it in case alone.
-/
namespace Scaffold

namespace Text

/-- Letters that differ in case alone, for those that are more than a character with its lower and
upper case forms, by code point. -/
def caseClasses : List (List Nat) :=
  [[0x4B, 0x6B, 0x212A], [0x53, 0x73, 0x17F], [0xB5, 0x39C, 0x3BC], [0xC5, 0xE5, 0x212B],
    [0xDF, 0x1E9E], [0x131], [0x1C4, 0x1C5, 0x1C6], [0x1C7, 0x1C8, 0x1C9], [0x1CA, 0x1CB, 0x1CC],
    [0x1F1, 0x1F2, 0x1F3], [0x345, 0x399, 0x3B9, 0x1FBE], [0x390, 0x1FD3], [0x392, 0x3B2, 0x3D0],
    [0x395, 0x3B5, 0x3F5], [0x398, 0x3B8, 0x3D1, 0x3F4], [0x39A, 0x3BA, 0x3F0],
    [0x3A0, 0x3C0, 0x3D6], [0x3A1, 0x3C1, 0x3F1], [0x3A3, 0x3C2, 0x3C3], [0x3A6, 0x3C6, 0x3D5],
    [0x3A9, 0x3C9, 0x2126], [0x3B0, 0x1FE3], [0x412, 0x432, 0x1C80], [0x414, 0x434, 0x1C81],
    [0x41E, 0x43E, 0x1C82], [0x421, 0x441, 0x1C83], [0x422, 0x442, 0x1C84, 0x1C85],
    [0x42A, 0x44A, 0x1C86], [0x462, 0x463, 0x1C87], [0x1C88, 0xA64A, 0xA64B],
    [0x1E60, 0x1E61, 0x1E9B], [0x1F80, 0x1F88], [0x1F81, 0x1F89], [0x1F82, 0x1F8A],
    [0x1F83, 0x1F8B], [0x1F84, 0x1F8C], [0x1F85, 0x1F8D], [0x1F86, 0x1F8E], [0x1F87, 0x1F8F],
    [0x1F90, 0x1F98], [0x1F91, 0x1F99], [0x1F92, 0x1F9A], [0x1F93, 0x1F9B], [0x1F94, 0x1F9C],
    [0x1F95, 0x1F9D], [0x1F96, 0x1F9E], [0x1F97, 0x1F9F], [0x1FA0, 0x1FA8], [0x1FA1, 0x1FA9],
    [0x1FA2, 0x1FAA], [0x1FA3, 0x1FAB], [0x1FA4, 0x1FAC], [0x1FA5, 0x1FAD], [0x1FA6, 0x1FAE],
    [0x1FA7, 0x1FAF], [0x1FB3, 0x1FBC], [0x1FC3, 0x1FCC], [0x1FF3, 0x1FFC], [0xFB05, 0xFB06]]

/-- The letters of ASCII that differ from a character in case alone, and the character. -/
def asciiCaseVariants (c : Char) : List Char := [c, c.toLower, c.toUpper]

/-- The only character of a text. -/
def single? : Text → Option Char
  | [c] => some c
  | _ => none

/-- Letters beyond ASCII that differ from an ASCII letter in case alone: the Kelvin sign and the
long s. -/
def variantsBeyondAscii (c : Char) : List Char :=
  if c = 'k' || c = 'K' then ['\u212a'] else if c = 's' || c = 'S' then ['\u017f'] else []

/-- The letters that differ from a character in case alone, and the character. -/
def caseVariants (c : Char) : List Char :=
  if c.toNat < 0x80 then asciiCaseVariants c ++ variantsBeyondAscii c
  else match caseClasses.find? (·.contains c.toNat) with
    | some codes => codes.map Char.ofNat
    | none => c :: (single? (lowerChar c)).toList ++ (single? (upperChar c)).toList

/-- Letters beyond the letter categories: letters in circles and squares. -/
def enclosedLetterRanges : List (Nat × Nat) :=
  [(0x24B6, 0x24E9), (0x1F130, 0x1F149), (0x1F150, 0x1F169), (0x1F170, 0x1F189)]

/-- The categories of word characters: letters, marks, decimal digits, letters that are numbers,
and connectors. -/
def wordCategories : List Category :=
  Category.letters ++ Category.marks ++ [.decimalNumber, .letterNumber, .connectorPunctuation]

/-- A character that joins its neighbours and takes no room. -/
def isJoiner (c : Char) : Bool := c == '\u200c' || c == '\u200d'

/-- A character of a word in the sense of word edges. -/
def isWordPart (c : Char) : Bool :=
  if c.toNat < 0x80 then c.isAlphanum || c == '_'
  else wordCategories.any (·.holds c) || inRanges enclosedLetterRanges c.toNat || isJoiner c

end Text

/-- A set of characters. -/
inductive CharSet where
  /-- No character. -/
  | nothing
  /-- The characters between two, both included. -/
  | range (first last : Char)
  /-- The characters of a general category. -/
  | kind (category : Text.Category)
  /-- The blanks. -/
  | blank
  /-- The word characters. -/
  | word
  /-- The lowercase characters. -/
  | lowercase
  /-- The uppercase characters. -/
  | uppercase
  /-- The characters with case. -/
  | cased
  /-- The characters that case rules pass over. -/
  | caseIgnorable
  /-- The letters and numbers. -/
  | alphanumeric
  /-- The characters of either set. -/
  | either (first second : CharSet)
  /-- The characters of both sets. -/
  | both (first second : CharSet)
  /-- All other characters. -/
  | complement (set : CharSet)
  /-- The characters that differ from one of the set in case alone; in ASCII letters only, unless
  all letters count. -/
  | anyCase (all : Bool) (set : CharSet)
deriving DecidableEq, Repr

namespace CharSet

/-- The set holds the character. -/
def holds : CharSet → Char → Bool
  | nothing, _ => false
  | range first last, c => first ≤ c && c ≤ last
  | kind category, c => category.holds c
  | blank, c => Text.isBlank c
  | word, c => Text.isWordPart c
  | lowercase, c => Text.isLowercase c
  | uppercase, c => Text.isUppercase c
  | cased, c => Text.isCased c
  | caseIgnorable, c => Text.isCaseIgnorable c
  | alphanumeric, c => Text.isAlphanumeric c
  | either first second, c => first.holds c || second.holds c
  | both first second, c => first.holds c && second.holds c
  | complement set, c => !set.holds c
  | anyCase all set, c =>
    (if all then Text.caseVariants c else Text.asciiCaseVariants c).any set.holds

/-- One character alone. -/
def only (c : Char) : CharSet := range c c

/-- The characters listed. -/
def ofList (chars : List Char) : CharSet := chars.foldr (fun c set => either (only c) set) nothing

/-- The characters of any of the sets. -/
def union (sets : List CharSet) : CharSet := sets.foldr either nothing

/-- The characters of the first set that the second one does not hold. -/
def difference (first second : CharSet) : CharSet := both first (complement second)

/-- The characters that only one of the sets holds. -/
def symmetricDifference (first second : CharSet) : CharSet :=
  difference (either first second) (both first second)

/-- Every character. -/
def everything : CharSet := complement nothing

/-- Every character but those listed. -/
def allBut (chars : List Char) : CharSet := complement (ofList chars)

/-- The characters of ASCII. -/
def ascii : CharSet := range '\x00' '\x7f'

/-- The decimal digits. -/
def digit : CharSet := kind .decimalNumber

/-- The word characters of ASCII. -/
def asciiWord : CharSet := union [range '0' '9', range 'A' 'Z', range 'a' 'z', only '_']

/-- The character is a number. -/
def isNumber (c : Char) : Bool :=
  Text.Category.holds .decimalNumber c || Text.Category.holds .otherNumber c

/-- The blanks of ASCII. -/
def asciiBlank : CharSet := union [range '\t' '\x0d', only ' ']

/-- A set of one character holds this character alone. -/
@[simp] theorem holds_only {c d : Char} : (only c).holds d = true ↔ d = c := by
  simp only [only, holds, Bool.and_eq_true, decide_eq_true_eq]
  exact ⟨fun between => Char.le_antisymm between.2 between.1, fun same => by simp [same]⟩

/-- A complement holds what the set does not hold. -/
@[simp] theorem holds_complement {set : CharSet} {c : Char} :
    (complement set).holds c = !set.holds c := rfl

/-- A list of characters holds its members. -/
theorem holds_ofList {chars : List Char} {c : Char} :
    (ofList chars).holds c = true ↔ c ∈ chars := by
  induction chars with
  | nil => simp [ofList, holds]
  | cons first rest ih =>
    have step : ofList (first :: rest) = either (only first) (ofList rest) := rfl
    simp [step, holds, ih]

end CharSet

end Scaffold
