import Scaffold.Text.CharProperty
import Scaffold.Text.Pattern.Bracket

/-!
# Written patterns

Patterns are written in the usual notation: characters for themselves, a dot for any character of
a line, sets in brackets, escapes behind a backslash, parentheses for groups, a bar between
alternatives, a question mark, star, plus or bounds in braces behind what repeats, a caret and a
dollar sign for the ends. Flags between `(?` and `)` are in force up to the end of the group they
stand in, and those between `(?` and `:` in a group of their own. There is no looking ahead or
behind and no reference back to a group. A pattern that is not well formed has no meaning.
-/
namespace Scaffold.Pattern

/-- What reading a pattern has come to. -/
structure Progress where
  /-- The flags in force. -/
  flags : Flags := {}
  /-- The number of groups opened. -/
  groups : Nat := 0
  /-- The names of groups. -/
  names : List Text := []

/-- Flags with one of them on or off. -/
def setFlag? (flags : Flags) (value : Bool) : Char → Option Flags
  | 'i' => some { flags with ignoreCase := value }
  | 'm' => some { flags with multiLine := value }
  | 's' => some { flags with dotAll := value }
  | 'U' => some { flags with reluctant := value }
  | 'u' => some { flags with unicode := value }
  | 'R' => some { flags with returns := value }
  | 'x' => some { flags with spacious := value }
  | _ => none

/-- The flags after written ones, and what is left from the closing mark on. A flag stands at most
once, and so does the hyphen, behind which flags are switched off. -/
def readFlags? : List Char → Flags → Text → Option (Flags × Text)
  | _, _, [] => none
  | seen, flags, c :: rest =>
    if c = ':' || c = ')' then
      if seen.head? = some '-' then none else some (flags, c :: rest)
    else if seen.contains c then none
    else if c = '-' then readFlags? (c :: seen) flags rest
    else do readFlags? (c :: seen) (← setFlag? flags (!seen.contains '-') c) rest

/-- The character may stand in the name of a group, at its front or behind it. -/
def isNamePart (front : Bool) (c : Char) : Bool :=
  c = '_' || (Text.isAlphanumeric c && !(front && CharSet.isNumber c)) ||
    (!front && (c = '.' || c = '[' || c = ']'))

/-- The name of a group up to its closing mark, and what is left. -/
def readName? (names : List Text) (text : Text) : Option (Text × Text) :=
  let name := text.takeWhile (· != '>')
  match name, text.drop name.length with
  | first :: more, _ :: left =>
    if isNamePart true first && more.all (isNamePart false) && !names.contains name then
      some (name, left)
    else none
  | _, _ => none

/-- The greatest number that bounds of a repetition may be. -/
def maxCount : Nat := 4294967295

/-- The decimal number at the front of a text, and what is left, without the blanks around it. -/
def readCount? (flags : Flags) (text : Text) : Option (Nat × Text) :=
  let text := Text.trimStart text
  let within := fun c => c.isDigit || (flags.spacious && Text.isBlank c)
  let count := ((text.takeWhile within).filter Char.isDigit).foldl
    (fun value c => value * 10 + (c.toNat - '0'.toNat)) 0
  if (text.head?.any Char.isDigit) && count ≤ maxCount then
    some (count, Text.trimStart (text.dropWhile within))
  else none

/-- Bounds of a repetition behind their opening brace, and what is left. -/
def readBounds? (flags : Flags) (text : Text) : Option ((Nat × Option Nat) × Text) := do
  let (least, rest) ← readCount? flags (flags.skip text)
  match rest with
  | '\x7d' :: left => some ((least, some least), left)
  | ',' :: rest =>
    match flags.skip rest with
    | '\x7d' :: left => some ((least, none), left)
    | rest =>
      let (most, rest) ← readCount? flags rest
      match rest with
      | '\x7d' :: left => if most < least then none else some ((least, some most), left)
      | _ => none
  | _ => none

/-- The repetition of a pattern. -/
def repetition (least : Nat) (most : Option Nat) (reluctant : Bool) : Pattern → Pattern
  | .one set => .run set least most reluctant
  | pattern => .repeated pattern least most reluctant

/-- The pattern of a repetition, which a question mark behind it turns from eager to reluctant or
back, and what is left. -/
def readGreed (flags : Flags) (pattern : Pattern) (least : Nat) (most : Option Nat) :
    Text → Pattern × Text
  | '?' :: rest => (repetition least most (!flags.reluctant) pattern, rest)
  | rest => (repetition least most flags.reluctant pattern, rest)

/-- The repetitions written behind a pattern, and what is left. The first argument bounds their
number by the length of the text. -/
def readRepeats (flags : Flags) : Nat → Pattern → Text → Option (Pattern × Text)
  | 0, pattern, text => some (pattern, text)
  | bound + 1, pattern, text =>
    match flags.skip text with
    | '*' :: rest =>
      let (whole, left) := readGreed flags pattern 0 none rest
      readRepeats flags bound whole left
    | '+' :: rest =>
      let (whole, left) := readGreed flags pattern 1 none rest
      readRepeats flags bound whole left
    | '?' :: rest =>
      let (whole, left) := readGreed flags pattern 0 (some 1) rest
      readRepeats flags bound whole left
    | '\x7b' :: rest => do
      let ((least, most), rest) ← readBounds? flags rest
      let (whole, left) := readGreed flags pattern least most (flags.skip rest)
      readRepeats flags bound whole left
    | left => some (pattern, left)

/-- The pattern of a sequence with a further item. -/
def andThen : Pattern → Pattern → Pattern
  | .empty, item => item
  | done, item => .both done item

/-- A mark that repeats what stands before it. -/
def isRepeat (c : Char) : Bool := c = '*' || c = '+' || c = '?' || c = '\x7b'

/-- The pattern of a character that stands for itself. -/
def literal (flags : Flags) (c : Char) : Pattern := .one (flags.cased (.only c))

/-- The pattern of an escape. -/
def ofEscape (flags : Flags) : Escape → Pattern
  | .char c => literal flags c
  | .set set => .one set
  | .boundary condition => .boundary condition

/-- The pattern of a dot, which is a character of any number of bytes. -/
def dot? (flags : Flags) : Option Pattern :=
  if !flags.unicode then none
  else if flags.dotAll then some (.one .everything)
  else some (.one (.allBut (if flags.returns then ['\n', '\x0d'] else ['\n'])))

/-- The pattern of a caret. -/
def caret (flags : Flags) : Pattern :=
  .boundary (if flags.multiLine then .lineStart flags.returns else .textStart)

/-- The pattern of a dollar sign. -/
def dollar (flags : Flags) : Pattern :=
  .boundary (if flags.multiLine then .lineEnd flags.returns else .textEnd)

/-- The pattern of one item that is no group, given its first character, and what is left. -/
def readSimple? (flags : Flags) (c : Char) (rest : Text) : Option (Pattern × Text) :=
  match c with
  | '[' => (readBracket? flags rest).map fun (set, left) => (.one set, left)
  | '\\' => (readEscape? flags rest).map fun (escape, left) => (ofEscape flags escape, left)
  | '^' => some (caret flags, rest)
  | '$' => some (dollar flags, rest)
  | '.' => (dot? flags).map fun pattern => (pattern, rest)
  | _ => if isRepeat c then none else some (literal flags c, rest)

/-- What stands behind the opening parenthesis of a group. -/
inductive GroupKind where
  /-- A group whose text is remembered, under a name if it has one. -/
  | remembered (name : Option Text)
  /-- A group with flags of its own. -/
  | plain (flags : Flags)
  /-- No group, but flags for the rest of the one around it. -/
  | flags (flags : Flags)

/-- The kind of group behind an opening parenthesis, and what is left. -/
def readGroupKind? (progress : Progress) (text : Text) : Option (GroupKind × Text) :=
  match progress.flags.skip text with
  | '?' :: '<' :: rest =>
    (readName? progress.names rest).map fun (name, left) => (.remembered (some name), left)
  | '?' :: 'P' :: '<' :: rest =>
    (readName? progress.names rest).map fun (name, left) => (.remembered (some name), left)
  | '?' :: rest => do
    match ← readFlags? [] progress.flags rest with
    | (flags, ':' :: left) => some (.plain flags, left)
    | (flags, _ :: left) => if rest.head? = some ')' then none else some (.flags flags, left)
    | _ => none
  | left => some (.remembered none, left)

mutual

/-- Alternatives up to a closing parenthesis or the end, what reading has come to, and what is
left. The first argument bounds the depth of the reading. -/
def readAlternatives : Nat → Progress → Text → Option (Pattern × Progress × Text)
  | 0, _, _ => none
  | bound + 1, progress, text => do
    let (first, progress, rest) ← readSequence bound progress .empty text
    match rest with
    | '|' :: rest =>
      let (second, progress, rest) ← readAlternatives bound progress rest
      some (.either first second, progress, rest)
    | _ => some (first, progress, rest)

/-- A sequence of repeated items behind those already read. -/
def readSequence : Nat → Progress → Pattern → Text → Option (Pattern × Progress × Text)
  | 0, _, _, _ => none
  | bound + 1, progress, done, text =>
    match progress.flags.skip text with
    | [] => some (done, progress, [])
    | '(' :: rest => do
      let (kind, rest) ← readGroupKind? progress rest
      match kind with
      | .flags flags =>
        let rest := flags.skip rest
        if rest.head?.any isRepeat then none
        else readSequence bound { progress with flags } done rest
      | .plain flags =>
        let (inner, after, rest) ← readGroup bound { progress with flags } rest
        let progress := { after with flags := progress.flags }
        let (item, rest) ← readRepeats progress.flags rest.length inner rest
        readSequence bound progress (done.andThen item) rest
      | .remembered name =>
        let index := progress.groups + 1
        let opened :=
          { progress with groups := index, names := name.toList ++ progress.names }
        let (inner, after, rest) ← readGroup bound opened rest
        let progress := { after with flags := progress.flags }
        let (item, rest) ← readRepeats progress.flags rest.length (.group index inner) rest
        readSequence bound progress (done.andThen item) rest
    | c :: rest =>
      if c = '|' || c = ')' then some (done, progress, c :: rest)
      else do
        let (item, rest) ← readSimple? progress.flags c rest
        let (item, rest) ← readRepeats progress.flags rest.length item rest
        readSequence bound progress (done.andThen item) rest

/-- The alternatives of a group and its closing parenthesis. -/
def readGroup : Nat → Progress → Text → Option (Pattern × Progress × Text)
  | 0, _, _ => none
  | bound + 1, progress, text => do
    let (inner, progress, rest) ← readAlternatives bound progress text
    match rest with
    | ')' :: left => some (inner, progress, left)
    | _ => none

end

/-- The room that a set of characters takes, in bytes: little for one character, much for a set
that draws on categories. -/
def setRoom : CharSet → Nat
  | .range first last => if first = last then 32 * first.utf8Size else 64
  | .kind _ => 6000
  | .word | .alphanumeric => 60000
  | .lowercase | .uppercase | .cased | .caseIgnorable => 20000
  | .nothing | .blank => 64
  | .either first second | .both first second => setRoom first + setRoom second
  | .complement set => setRoom set + 400
  | .anyCase _ set => setRoom set

/-- The room of a repetition whose inner pattern takes so much. -/
def copiesRoom (inner least : Nat) (most : Option Nat) : Nat :=
  (most.getD (max least 1)) * (inner + if most = some least then 0 else 32)

/-- The room that a pattern takes with its repetitions written out, in bytes. -/
def room : Pattern → Nat
  | .empty => 0
  | .one set => setRoom set
  | .run set least most _ => copiesRoom (setRoom set) least most
  | .both first second => first.room + second.room
  | .either first second => first.room + second.room + 32
  | .repeated inner least most _ => copiesRoom inner.room least most
  | .group _ inner => inner.room + 64
  | .boundary _ => 32

/-- The most room that a pattern may take: ten mebibytes. -/
def maxRoom : Nat := 10485760

/-- The pattern that a text writes, if it is well formed and not too large. -/
def read? (text : Text) : Option Pattern := do
  let (pattern, _, rest) ← readAlternatives (4 * text.length + 4) {} text
  if rest.isEmpty && pattern.room ≤ maxRoom then some pattern else none

end Scaffold.Pattern
