import Scaffold.Text.CharSet.Named
import Scaffold.Text.Hex
import Scaffold.Text.Pattern

/-!
# Escapes in written patterns

What a backslash begins in a written pattern: a character by its letter or its number, a kind of
characters, or a boundary. What an escape means depends on the flags in force where it stands.
-/
namespace Scaffold.Pattern

/-- What the flags in force switch on. -/
structure Flags where
  /-- Letters stand for all their cases. -/
  ignoreCase : Bool := false
  /-- The caret and the dollar sign match at every line. -/
  multiLine : Bool := false
  /-- The dot matches a line feed too. -/
  dotAll : Bool := false
  /-- Repetitions are reluctant, and eager with a question mark behind them. -/
  reluctant : Bool := false
  /-- Sets and cases are those of all characters and not of ASCII alone. -/
  unicode : Bool := true
  /-- A carriage return ends a line too. -/
  returns : Bool := false
  /-- Blanks, and comments behind a hash sign, do not count. -/
  spacious : Bool := false
deriving DecidableEq, Repr

namespace Flags

/-- The word characters under the flags. -/
def wordSet (flags : Flags) : CharSet := if flags.unicode then .word else .asciiWord

/-- A set with the other cases of its letters, if case is ignored. -/
def cased (flags : Flags) (set : CharSet) : CharSet :=
  if flags.ignoreCase then .anyCase flags.unicode set else set

/-- A set or its complement. Among ASCII characters alone there are no complements: they would
hold parts of longer characters. -/
def negatedIf (flags : Flags) (negated : Bool) (set : CharSet) : Option CharSet :=
  if !negated then some set else if flags.unicode then some (.complement set) else none

end Flags

/-- What is left behind blanks and comments. The first argument tells that a comment has begun. -/
def skipGaps : Bool → Text → Text
  | _, [] => []
  | true, c :: rest => skipGaps (c != '\n') rest
  | false, c :: rest =>
    if Text.isBlank c then skipGaps false rest
    else if c = '#' then skipGaps true rest
    else c :: rest

/-- What is left behind what does not count. -/
def Flags.skip (flags : Flags) (text : Text) : Text :=
  if flags.spacious then skipGaps false text else text

/-- What an escape stands for. -/
inductive Escape where
  /-- A character. -/
  | char (c : Char)
  /-- A set of characters. -/
  | set (set : CharSet)
  /-- A boundary. -/
  | boundary (boundary : Boundary)
deriving DecidableEq, Repr

/-- A character that a backslash turns into itself: any of ASCII but letters, digits and the two
that mark edges of words. -/
def isPunctuation (c : Char) : Bool := c.toNat < 0x80 && !c.isAlphanum && c != '<' && c != '>'

/-- The number of so many hexadecimal digits behind what is read already, and what is left. -/
def readDigits (flags : Flags) : Nat → Nat → Text → Option (Nat × Text)
  | 0, number, text => some (number, text)
  | _ + 1, _, [] => none
  | more + 1, number, c :: rest => do
    let digit ← Text.hexDigit? c
    readDigits flags more (16 * number + digit) (flags.skip rest)

/-- What stands between braces, behind the opening one, without blanks that do not count, and what
is left. -/
def readBraced? (flags : Flags) (text : Text) : Option (Text × Text) :=
  match text.dropWhile (· != '\x7d') with
  | [] => none
  | _ :: rest =>
    some ((text.takeWhile (· != '\x7d')).filter fun c => !(flags.spacious && Text.isBlank c), rest)

/-- The character with a number of so many hexadecimal digits, or of any between braces. Two digits
stand for a byte where only ASCII counts, and a byte beyond ASCII is no character. -/
def readNumbered? (flags : Flags) (digits : Nat) (text : Text) : Option (Escape × Text) :=
  match flags.skip text with
  | '\x7b' :: rest => do
    let (inner, left) ← readBraced? flags rest
    if inner.isEmpty then none
    else
      let c ← (Text.hexNumber? inner).bind Text.character?
      some (.char c, left)
  | text => do
    let (number, left) ← readDigits flags digits 0 text
    let c ← Text.character? number
    if digits = 2 ∧ !flags.unicode ∧ number ≥ 0x80 then none else some (.char c, left)

/-- The set that a property names, which may have a value: the name of the set, whether it is
meant to be left out, and its complement then. -/
def propertySet? (written : Text) : Option (Bool × CharSet) :=
  let name := written.takeWhile fun c => c != ':' && c != '='
  match written.drop name.length with
  | [] => (CharSet.ofName? written).map (false, ·)
  | mark :: value =>
    if mark = '=' ∧ name.getLast? = some '!' then
      (CharSet.ofValue? name.dropLast value).map (true, ·)
    else (CharSet.ofValue? name value).map (false, ·)

/-- A set by the name of a property: one letter, or any name between braces. -/
def readProperty? (flags : Flags) (negated : Bool) (text : Text) : Option (Escape × Text) := do
  let (written, left) ←
    match flags.skip text with
    | [] => none
    | '\\' :: _ => none
    | '\x7b' :: rest => readBraced? flags rest
    | c :: rest => some ([c], rest)
  if !flags.unicode then none
  else
    let (without, set) ← propertySet? written
    let set ← flags.negatedIf (negated != without) (flags.cased set)
    some (.set set, left)

/-- The kind of characters of a letter: digits, blanks or word characters. -/
def kindOf (flags : Flags) : Char → CharSet
  | 'd' => if flags.unicode then .digit else .range '0' '9'
  | 's' => if flags.unicode then .blank else .asciiBlank
  | _ => flags.wordSet

/-- The edge of a word by its name between braces. -/
def edgeOf? (words : CharSet) (name : Text) : Option Boundary :=
  if name = "start" then some (.wordStart words)
  else if name = "end" then some (.wordEnd words)
  else if name = "start-half" then some (.wordStartHalf words)
  else if name = "end-half" then some (.wordEndHalf words)
  else none

/-- The character may stand in the name of an edge. -/
def isEdgePart (c : Char) : Bool := c.isAlpha || c = '-'

/-- The edge of a word behind its letter. A brace with a name behind it belongs to the edge, and any
other brace to a repetition of it. -/
def readEdge? (flags : Flags) (text : Text) : Option (Escape × Text) :=
  let plain := Escape.boundary (.wordEdge flags.wordSet)
  match text with
  | '\x7b' :: rest =>
    match flags.skip rest with
    | [] => none
    | c :: more =>
      if isEdgePart c then do
        let (name, left) ← readBraced? flags (c :: more)
        let edge ← edgeOf? flags.wordSet name
        some (.boundary edge, left)
      else some (plain, text)
  | _ => some (plain, text)

/-- What an escape stands for, given what follows the backslash, and what is left. -/
def readEscape? (flags : Flags) : Text → Option (Escape × Text)
  | [] => none
  | c :: rest =>
    match c with
    | 'x' => readNumbered? flags 2 rest
    | 'u' => readNumbered? flags 4 rest
    | 'U' => readNumbered? flags 8 rest
    | 'p' => readProperty? flags false rest
    | 'P' => readProperty? flags true rest
    | 'd' | 's' | 'w' => some (.set (kindOf flags c), rest)
    | 'D' | 'S' | 'W' =>
      (flags.negatedIf true (kindOf flags c.toLower)).map fun set => (.set set, rest)
    | 'a' => some (.char '\x07', rest)
    | 'f' => some (.char '\x0c', rest)
    | 't' => some (.char '\t', rest)
    | 'n' => some (.char '\n', rest)
    | 'r' => some (.char '\x0d', rest)
    | 'v' => some (.char '\x0b', rest)
    | 'A' => some (.boundary .textStart, rest)
    | 'z' => some (.boundary .textEnd, rest)
    | 'b' => readEdge? flags rest
    | 'B' => some (.boundary (.noWordEdge flags.wordSet), rest)
    | '<' => some (.boundary (.wordStart flags.wordSet), rest)
    | '>' => some (.boundary (.wordEnd flags.wordSet), rest)
    | _ => if isPunctuation c then some (.char c, rest) else none

end Scaffold.Pattern
