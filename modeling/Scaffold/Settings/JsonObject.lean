import Scaffold.Settings.Basic
import Scaffold.Text.Hex

/-!
# Settings in a JSON object

A settings file holds one JSON object, or the list of its values in the order of the settings. Its
members are texts, lists of texts or null, which is the same as a member that is left out. A file
that holds anything else, names a member twice or names one that is no setting, is not well formed.
-/
namespace Scaffold

namespace JsonObject

/-- The number that four hexadecimal digits write. -/
def codeUnit? (a b c d : Char) : Option Nat := Text.hexNumber? [a, b, c, d]

/-- The character that two code units are for, if they are the halves of a surrogate pair. -/
def ofSurrogates? (high low : Nat) : Option Char :=
  if 0xd800 ≤ high ∧ high < 0xdc00 ∧ 0xdc00 ≤ low ∧ low < 0xe000 then
    Text.character? (0x10000 + (high - 0xd800) * 0x400 + (low - 0xdc00))
  else none

/-- The character that a backslash and a letter stand for. -/
def escaped? : Char → Option Char
  | '"' => some '"'
  | '\\' => some '\\'
  | '/' => some '/'
  | 'b' => some '\x08'
  | 'f' => some '\x0c'
  | 'n' => some '\n'
  | 'r' => some '\x0d'
  | 't' => some '\t'
  | _ => none

/-- The text up to the closing quotation mark, and what follows the mark. -/
def quoted? : Text → Option (Text × Text)
  | [] => none
  | '"' :: rest => some ([], rest)
  | '\\' :: 'u' :: a :: b :: c :: d :: rest => do
    let high ← codeUnit? a b c d
    match Text.character? high with
    | some c =>
      let (text, after) ← quoted? rest
      return (c :: text, after)
    | none =>
      match rest with
      | '\\' :: 'u' :: e :: f :: g :: h :: rest =>
        let c ← ofSurrogates? high (← codeUnit? e f g h)
        let (text, after) ← quoted? rest
        return (c :: text, after)
      | _ => none
  | '\\' :: letter :: rest => do
    let c ← escaped? letter
    let (text, after) ← quoted? rest
    return (c :: text, after)
  | c :: rest =>
    if c < ' ' then none else (quoted? rest).map fun (text, after) => (c :: text, after)

/-- What a JSON text is made of, as far as settings need it. -/
inductive Token where
  /-- An opening brace. -/
  | openObject
  /-- A closing brace. -/
  | closeObject
  /-- An opening bracket. -/
  | openList
  /-- A closing bracket. -/
  | closeList
  /-- A colon. -/
  | colon
  /-- A comma. -/
  | comma
  /-- The word null. -/
  | null
  /-- A text. -/
  | text (text : Text)
deriving DecidableEq, Repr

/-- The token of one character. -/
def mark? : Char → Option Token
  | '\x7b' => some .openObject
  | '\x7d' => some .closeObject
  | '[' => some .openList
  | ']' => some .closeList
  | ':' => some .colon
  | ',' => some .comma
  | _ => none

/-- The character separates tokens and means nothing else. -/
def isGap (c : Char) : Bool := c = ' ' || c = '\n' || c = '\x0d' || c = '\t'

/-- The tokens of a text; none if there is anything else in it. The first argument bounds their
number by the length of the text. -/
def tokensFrom : Nat → Text → Option (List Token)
  | _, [] => some []
  | 0, _ :: _ => none
  | bound + 1, 'n' :: 'u' :: 'l' :: 'l' :: rest => (tokensFrom bound rest).map (.null :: ·)
  | bound + 1, '"' :: rest => do
    let (text, after) ← quoted? rest
    (tokensFrom bound after).map (.text text :: ·)
  | bound + 1, c :: rest =>
    if isGap c then tokensFrom bound rest
    else do
      let token ← mark? c
      (tokensFrom bound rest).map (token :: ·)

/-- The tokens of a text. -/
def tokens? (text : Text) : Option (List Token) := tokensFrom text.length text

/-- The value of a member. -/
inductive Value where
  /-- Null. -/
  | null
  /-- A text. -/
  | text (text : Text)
  /-- A list of texts. -/
  | list (texts : List Text)
deriving DecidableEq, Repr

/-- The texts of a list that is not empty, and the tokens behind the list. -/
def items? : List Token → Option (List Text × List Token)
  | .text text :: .closeList :: rest => some ([text], rest)
  | .text text :: .comma :: rest => (items? rest).map fun (texts, after) => (text :: texts, after)
  | _ => none

/-- The value at the start of tokens, and the tokens behind it. -/
def value? : List Token → Option (Value × List Token)
  | .null :: rest => some (.null, rest)
  | .text text :: rest => some (.text text, rest)
  | .openList :: .closeList :: rest => some (.list [], rest)
  | .openList :: rest => (items? rest).map fun (texts, after) => (.list texts, after)
  | _ => none

/-- The members of an object that is not empty, behind its opening brace. The first argument
bounds their number by the number of tokens. -/
def membersFrom : Nat → List Token → Option (List (Text × Value))
  | bound + 1, .text key :: .colon :: rest => do
    match ← value? rest with
    | (value, [.closeObject]) => some [(key, value)]
    | (value, .comma :: more) => (membersFrom bound more).map ((key, value) :: ·)
    | _ => none
  | _, _ => none

/-- The values of a list that is not empty, behind its opening bracket. The first argument bounds
their number by the number of tokens. -/
def valuesFrom : Nat → List Token → Option (List Value)
  | bound + 1, tokens => do
    match ← value? tokens with
    | (value, [.closeList]) => some [value]
    | (value, .comma :: more) => (valuesFrom bound more).map (value :: ·)
    | _ => none
  | 0, _ => none

/-- The members of the object that a text writes. A list of values for all names, in their order,
writes the object too. -/
def members? (names : List Text) (text : Text) : Option (List (Text × Value)) := do
  match ← tokens? text with
  | [.openObject, .closeObject] => some []
  | .openObject :: rest => membersFrom rest.length rest
  | .openList :: rest =>
    let values ← valuesFrom rest.length rest
    if values.length = names.length then some (names.zip values) else none
  | _ => none

/-- The text of a member, if it has one; none if the member is a list. -/
def text? (members : List (Text × Value)) (key : Text) : Option (Option Text) :=
  match members.lookup key with
  | none => some none
  | some .null => some none
  | some (.text text) => some (some text)
  | some (.list _) => none

/-- The texts of a member, if it has some; none if the member is a text. -/
def list? (members : List (Text × Value)) (key : Text) : Option (Option (List Text)) :=
  match members.lookup key with
  | none => some none
  | some .null => some none
  | some (.list texts) => some (some texts)
  | some (.text _) => none

end JsonObject

namespace Settings

/-- The names of the members of a settings file. -/
def memberNames : List Text :=
  ["name", "fields", "relationships", "table_relationships", "table_columns", "searchable",
    "filterable", "icon", "view_mode", "package", "system_setup", "inference", "root", "stubs"]

/-- The settings that members give. -/
def ofMembers? (members : List (Text × JsonObject.Value)) : Option Settings := do
  let keys := members.map (·.1)
  if !keys.Nodup || keys.any (!memberNames.contains ·) then none
  else
    let text := JsonObject.text? members
    let list := JsonObject.list? members
    return {
      name := ← text "name"
      fields := ← text "fields"
      relationships := ← text "relationships"
      projections := ← text "table_relationships"
      tableColumns := ← list "table_columns"
      searchable := ← list "searchable"
      filterable := ← list "filterable"
      icon := ← text "icon"
      viewMode := ← text "view_mode"
      package := ← text "package"
      systemSetup := ← text "system_setup"
      inference := ← text "inference"
      root := ← text "root"
      templates := ← text "stubs" }

/-- The settings that a JSON object gives. -/
def ofJson? (text : Text) : Option Settings :=
  (JsonObject.members? memberNames text).bind ofMembers?

/-- The settings in the file at a path. -/
def ofFile (tree : Tree) (start : Location) (path : FilePath) : Except Failure Settings := do
  match ofJson? (← Failure.onFile path (tree.readText start path)) with
  | some settings => return settings
  | none => throw .configuration

end Settings

end Scaffold
