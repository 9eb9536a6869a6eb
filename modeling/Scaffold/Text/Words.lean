import Scaffold.Text.Case
import Scaffold.Text.Split

/-!
# Words and casings

A name is split into words where a character is neither letter nor number, between a lowercase
and an uppercase character, and before the last of several uppercase characters that a lowercase
one follows (`HTMLPage` is `HTML`, `Page`). Numbers split nothing. The casings join the words
again.
-/
namespace Scaffold.Text

/-- The case of the last cased character of the word being read. -/
inductive WordCase where
  /-- No cased character yet. -/
  | uncased
  /-- A lowercase character. -/
  | lowercase
  /-- An uppercase character. -/
  | uppercase
deriving DecidableEq, Repr

/-- The case after one more character. -/
def WordCase.after (mode : WordCase) (c : Char) : WordCase :=
  if isLowercase c then .lowercase else if isUppercase c then .uppercase else mode

/-- Splits a run of letters and numbers, with the case and the reversed start of the word being
read. -/
def splitCase (mode : WordCase) (word : Text) : Text → List Text
  | [] => if word.isEmpty then [] else [word.reverse]
  | [c] => [(c :: word).reverse]
  | c :: next :: rest =>
    if mode.after c = .lowercase && isUppercase next then
      (c :: word).reverse :: splitCase .uncased [] (next :: rest)
    else if mode = .uppercase && isUppercase c && isLowercase next then
      word.reverse :: splitCase .uncased [c] (next :: rest)
    else splitCase (mode.after c) (c :: word) (next :: rest)

/-- The words of a name. -/
def wordsOf (name : Text) : List Text :=
  (splitWhere (fun c => !isAlphanumeric c) name).flatMap (splitCase .uncased [])

/-- A word in lower case, character by character; a capital sigma at its end takes the final
form. -/
def lowerWord : Text → Text
  | [] => []
  | [c] => if c = capitalSigma then ['ς'] else lowerChar c
  | c :: next :: rest => lowerChar c ++ lowerWord (next :: rest)

/-- A word with its first character in upper case and the others in lower case. -/
def capitalWord : Text → Text
  | [] => []
  | c :: rest => upperChar c ++ lowerWord rest

/-- Lowercase words with underscores between them. -/
def snakeCase (name : Text) : Text := joinWith ['_'] ((wordsOf name).map lowerWord)

/-- Lowercase words with hyphens between them. -/
def kebabCase (name : Text) : Text := joinWith ['-'] ((wordsOf name).map lowerWord)

/-- Capitalised words with nothing between them. -/
def upperCamelCase (name : Text) : Text := concat ((wordsOf name).map capitalWord)

/-- Capitalised words after a lowercase first one, with nothing between them. -/
def lowerCamelCase (name : Text) : Text :=
  match wordsOf name with
  | [] => []
  | first :: others => lowerWord first ++ concat (others.map capitalWord)

/-- A word with its first character in upper case and the others as they are. -/
def capitalized : Text → Text
  | [] => []
  | c :: rest => upperChar c ++ rest

/-- The text of a name for people to read: its parts between underscores and blanks, capitalised,
with a blank between them. -/
def labelFor (name : Text) : Text :=
  joinWith [' '] <|
    ((splitWhere (fun c => c = '_' || c = ' ') name).filter (!·.isEmpty)).map capitalized

end Scaffold.Text
