import Scaffold.Settings.Toml.Quoted
import Scaffold.Settings.Toml.Scalar

/-!
# Values in TOML

Keys and the values that may stand behind them: texts, numbers and the like, lists, and tables on
one line. A key of several parts between dots leads through tables.
-/
namespace Scaffold.Toml

/-- The way through tables to a value: a part for each table, and the last part in the table. -/
abbrev Key := List Text

/-- A value. -/
inductive Value where
  /-- A text. -/
  | text (text : Text)
  /-- A number, a truth value or a date. -/
  | scalar
  /-- A list. -/
  | list (values : List Value)
  /-- A table on one line. -/
  | table (entries : List (Key × Value))

/-- The character may stand in a key without quotes. -/
def isKeyPart (c : Char) : Bool := c.isAlphanum || c = '_' || c = '-'

/-- One part of a key at the start, and what follows it. -/
def keyPart? (text : Text) : Option (Text × Text) :=
  match text.takeWhile isKeyPart with
  | [] => quoted? text
  | part => some (part, text.dropWhile isKeyPart)

/-- The key at the start, with blanks around its parts, and what follows it. The first argument
bounds the number of its parts by the length of the text. -/
def keyFrom : Nat → Text → Option (Key × Text)
  | 0, _ => none
  | bound + 1, text => do
    let (part, rest) ← keyPart? (skipBlanks text)
    match skipBlanks rest with
    | '.' :: rest =>
      let (key, after) ← keyFrom bound rest
      return (part :: key, after)
    | rest => return ([part], rest)

/-- The key at the start, and what follows it. -/
def key? (text : Text) : Option (Key × Text) := keyFrom (text.length + 1) text

/-- The text without the blanks, line endings and comments at its start. The first argument tells
that a comment has begun. -/
def skipGaps : Bool → Text → Text
  | _, [] => []
  | _, '\n' :: rest => skipGaps false rest
  | _, '\x0d' :: '\n' :: rest => skipGaps false rest
  | true, c :: rest => if isPlain c then skipGaps true rest else c :: rest
  | false, c :: rest =>
    if isGap c then skipGaps false rest
    else if c = '#' then skipGaps true rest
    else c :: rest

/-- No key leads through another or is the same. -/
def areApart : List (Key × Value) → Bool
  | [] => true
  | (key, _) :: rest =>
    rest.all (fun (other, _) => !key.isPrefixOf other && !other.isPrefixOf key) && areApart rest

mutual

/-- The value at the start, and what follows it. The first argument bounds the depth of the
reading. -/
def valueFrom : Nat → Text → Option (Value × Text)
  | 0, _ => none
  | bound + 1, text =>
    match text with
    | '[' :: rest => (listFrom bound rest).map fun (values, after) => (.list values, after)
    | '\x7b' :: rest =>
      match skipBlanks rest with
      | '\x7d' :: after => some (.table [], after)
      | rest => do
        let (entries, after) ← tableFrom bound rest
        if areApart entries then some (.table entries, after) else none
    | '"' :: _ => (anyQuoted? text).map fun (text, after) => (.text text, after)
    | '\'' :: _ => (anyQuoted? text).map fun (text, after) => (.text text, after)
    | _ => (afterScalar? text).map fun after => (.scalar, after)

/-- The values of a list up to its closing bracket, and what follows the bracket. -/
def listFrom : Nat → Text → Option (List Value × Text)
  | 0, _ => none
  | bound + 1, text =>
    match skipGaps false text with
    | ']' :: after => some ([], after)
    | rest => do
      let (value, rest) ← valueFrom bound rest
      match skipGaps false rest with
      | ']' :: after => some ([value], after)
      | ',' :: rest =>
        let (values, after) ← listFrom bound rest
        some (value :: values, after)
      | _ => none

/-- The entries of a table up to its closing brace, and what follows the brace. -/
def tableFrom : Nat → Text → Option (List (Key × Value) × Text)
  | 0, _ => none
  | bound + 1, text => do
    let (key, rest) ← key? text
    match rest with
    | '=' :: rest =>
      let (value, rest) ← valueFrom bound (skipBlanks rest)
      match skipBlanks rest with
      | '\x7d' :: after => some ([(key, value)], after)
      | ',' :: rest =>
        let (entries, after) ← tableFrom bound rest
        some ((key, value) :: entries, after)
      | _ => none
    | _ => none

end

/-- The value at the start, and what follows it. -/
def value? (text : Text) : Option (Value × Text) := valueFrom (2 * text.length + 2) text

end Scaffold.Toml
