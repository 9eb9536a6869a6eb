import Scaffold.Text.Hex

/-!
# Quoted texts in TOML

Texts between quotation marks or apostrophes. Between quotation marks a backslash begins an
escape; between apostrophes it stands for itself. Three marks in a row quote a text of several
lines: a line feed behind the opening marks does not count, every line ends with a line feed, and
a backslash at the end of a line joins it to the next text.
-/
namespace Scaffold.Toml

/-- The character may stand in a comment or between quotes as it is. -/
def isPlain (c : Char) : Bool := c = '\t' || (' ' ≤ c && c ≠ '\x7f')

/-- The character separates words within a line. -/
def isGap (c : Char) : Bool := c = ' ' || c = '\t'

/-- The text without the blanks at its start. -/
def skipBlanks (text : Text) : Text := text.dropWhile isGap

/-- What follows a line ending: a line feed, which may have a carriage return before it. -/
def afterLine? : Text → Option Text
  | '\n' :: rest => some rest
  | '\x0d' :: '\n' :: rest => some rest
  | _ => none

/-- The text without the blanks and line endings at its start. -/
def skipBlankLines : Text → Text
  | '\x0d' :: '\n' :: rest => skipBlankLines rest
  | c :: rest => if isGap c || c = '\n' then skipBlankLines rest else c :: rest
  | [] => []

/-- The character that a backslash and a letter stand for. -/
def escaped? : Char → Option Char
  | '"' => some '"'
  | '\\' => some '\\'
  | 'b' => some '\x08'
  | 'f' => some '\x0c'
  | 'n' => some '\n'
  | 'r' => some '\x0d'
  | 't' => some '\t'
  | _ => none

/-- The character that hexadecimal digits give the number of. -/
def numbered? (digits : Text) : Option Char := (Text.hexNumber? digits).bind Text.character?

/-- The character of an escape behind its backslash, and what follows it. -/
def escape? : Text → Option (Char × Text)
  | 'u' :: a :: b :: c :: d :: rest => (numbered? [a, b, c, d]).map (·, rest)
  | 'U' :: a :: b :: c :: d :: e :: f :: g :: h :: rest =>
    (numbered? [a, b, c, d, e, f, g, h]).map (·, rest)
  | letter :: rest => (escaped? letter).map (·, rest)
  | [] => none

/-- The text up to the closing quotation mark, and what follows the mark. The first argument
bounds the reading by the length of the text. -/
def basicFrom : Nat → Text → Option (Text × Text)
  | 0, _ => none
  | _, [] => none
  | _, '"' :: rest => some ([], rest)
  | bound + 1, '\\' :: rest => do
    let (c, rest) ← escape? rest
    let (text, after) ← basicFrom bound rest
    return (c :: text, after)
  | bound + 1, c :: rest =>
    if isPlain c then (basicFrom bound rest).map fun (text, after) => (c :: text, after)
    else none

/-- The text up to the closing apostrophe, and what follows it. -/
def literal? : Text → Option (Text × Text)
  | [] => none
  | '\'' :: rest => some ([], rest)
  | c :: rest =>
    if isPlain c then (literal? rest).map fun (text, after) => (c :: text, after) else none

/-- How a text of several lines ends: with three marks. Up to two more of them before those
belong to the text. -/
def closing? (mark : Char) (text : Text) : Option (Text × Text) :=
  let run := (text.takeWhile (· = mark)).length
  if run < 3 then none
  else
    let extra := min (run - 3) 2
    some (List.replicate extra mark, text.drop (extra + 3))

/-- The text of several lines up to its closing marks, and what follows them. The first argument
bounds the reading by the length of the text. -/
def linesFrom (mark : Char) : Nat → Text → Option (Text × Text)
  | 0, _ => none
  | bound + 1, text =>
    match closing? mark text with
    | some found => some found
    | none =>
      match afterLine? text with
      | some rest => (linesFrom mark bound rest).map fun (text, after) => ('\n' :: text, after)
      | none =>
        match text with
        | [] => none
        | c :: rest =>
          if c = '\\' ∧ mark = '"' then
            match afterLine? (skipBlanks rest) with
            | some joined => linesFrom mark bound (skipBlankLines joined)
            | none => do
              let (c, rest) ← escape? rest
              let (text, after) ← linesFrom mark bound rest
              return (c :: text, after)
          else if isPlain c then
            (linesFrom mark bound rest).map fun (text, after) => (c :: text, after)
          else none

/-- The text of several lines behind its opening marks, and what follows its closing ones. -/
def severalLines? (mark : Char) (text : Text) : Option (Text × Text) :=
  linesFrom mark (text.length + 1) ((afterLine? text).getD text)

/-- The text between quotes on one line at the start, and what follows it. -/
def quoted? : Text → Option (Text × Text)
  | '"' :: rest => basicFrom (rest.length + 1) rest
  | '\'' :: rest => literal? rest
  | _ => none

/-- The text between quotes at the start, on one line or several, and what follows it. -/
def anyQuoted? : Text → Option (Text × Text)
  | '"' :: '"' :: '"' :: rest => severalLines? '"' rest
  | '\'' :: '\'' :: '\'' :: rest => severalLines? '\'' rest
  | text => quoted? text

end Scaffold.Toml
