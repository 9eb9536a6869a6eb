import Scaffold.Text.Pattern.Escape

/-!
# Bracketed sets in written patterns

A bracketed set lists characters, ranges, escapes, ASCII kinds between colons and further
bracketed sets. Two ampersands, hyphens or tildes stand between what is intersected, subtracted or
told apart, from the left; a list binds its members before them. A caret in front of the list
means the complement. Case is ignored in the list before the complement is taken.
-/
namespace Scaffold.Pattern

/-- What joins two lists in a set. -/
inductive SetOperator where
  /-- What both lists hold. -/
  | common
  /-- What the first list alone holds. -/
  | difference
  /-- What one of the lists alone holds. -/
  | symmetric
deriving DecidableEq, Repr

/-- What two sets make together. -/
def SetOperator.apply : SetOperator → CharSet → CharSet → CharSet
  | common, first, second => .both first second
  | difference, first, second => .difference first second
  | symmetric, first, second => .symmetricDifference first second

/-- A list with the list and operator before it, if there are any. -/
def joined (flags : Flags) : Option (CharSet × SetOperator) → CharSet → CharSet
  | none, set => set
  | some (first, operator), set => operator.apply (flags.cased first) (flags.cased set)

/-- A member of a list: a character, or a set. -/
def readMember? (flags : Flags) : Text → Option (Escape × Text)
  | [] => none
  | '\\' :: rest => readEscape? flags rest
  | c :: rest => some (.char c, rest)

/-- The character of a member. A character beyond ASCII is none where only ASCII counts. -/
def charOf? (flags : Flags) : Escape → Option Char
  | .char c => if flags.unicode || c.toNat < 0x80 then some c else none
  | _ => none

/-- The set of a member. A boundary is no member. -/
def setOf? (flags : Flags) : Escape → Option CharSet
  | .char c => (charOf? flags (.char c)).map .only
  | .set set => some set
  | .boundary _ => none

/-- A hyphen here is between the ends of a range: neither the bracket's end nor a second hyphen
follows it. -/
def beginsRange (flags : Flags) : Text → Bool
  | '-' :: rest => (flags.skip rest).head? != some ']' && (flags.skip rest).head? != some '-'
  | _ => false

/-- A member or a range, and what is left, where more must follow. -/
def readRange? (flags : Flags) (text : Text) : Option (CharSet × Text) := do
  let (first, rest) ← readMember? flags text
  let rest := flags.skip rest
  if rest.isEmpty then none
  else if beginsRange flags rest then
    let (last, left) ← readMember? flags (flags.skip (rest.drop 1))
    let first ← charOf? flags first
    let last ← charOf? flags last
    if last < first then none else some (.range first last, left)
  else
    let set ← setOf? flags first
    some (set, rest)

/-- An ASCII kind behind an opening bracket, and what is left. -/
def readKind? (flags : Flags) : Text → Option (Option CharSet × Text)
  | ':' :: rest => do
    let (negated, rest) := match rest with
      | '^' :: rest => (true, rest)
      | _ => (false, rest)
    let name := rest.takeWhile (· != ':')
    match rest.drop name.length with
    | ':' :: ']' :: left => do
      let set ← CharSet.asciiKinds.lookup name
      some (flags.negatedIf negated (flags.cased set), left)
    | _ => none
  | _ => none

/-- Hyphens with which a list begins stand for themselves: the members so far, and what is left. -/
def readHyphens (flags : Flags) : Nat → CharSet → Text → CharSet × Text
  | bound + 1, _, '-' :: rest => readHyphens flags bound (.only '-') (flags.skip rest)
  | _, set, text => (set, text)

/-- The front of a bracketed set behind its opening bracket: whether it is negated, the members so
far, and what is left. A closing bracket that comes first stands for itself. -/
def readFront (flags : Flags) (text : Text) : Bool × CharSet × Text :=
  let text := flags.skip text
  let (negated, text) := match text with
    | '^' :: rest => (true, flags.skip rest)
    | _ => (false, text)
  let (set, text) := readHyphens flags text.length .nothing text
  match set, text with
  | .nothing, ']' :: rest => (negated, .only ']', flags.skip rest)
  | set, text => (negated, set, text)

mutual

/-- A bracketed set behind its opening bracket, and what is left. The first argument bounds the
depth of the reading. -/
def readBracket (flags : Flags) : Nat → Text → Option (CharSet × Text)
  | 0, _ => none
  | bound + 1, text =>
    let (negated, set, rest) := readFront flags text
    do
      let (set, left) ← readList flags bound none set rest
      let set ← flags.negatedIf negated (flags.cased set)
      some (set, left)

/-- The rest of a list up to the closing bracket of its set, with what stands before it. -/
def readList (flags : Flags) :
    Nat → Option (CharSet × SetOperator) → CharSet → Text → Option (CharSet × Text)
  | 0, _, _, _ => none
  | bound + 1, before, set, text =>
    match flags.skip text with
    | [] => none
    | ']' :: left => some (joined flags before set, left)
    | '[' :: rest =>
      match readKind? flags rest with
      | some (kind, left) => do readList flags bound before (.either set (← kind)) left
      | none => do
        let (inner, left) ← readBracket flags bound rest
        readList flags bound before (.either set inner) left
    | '&' :: '&' :: rest =>
      readList flags bound (some (joined flags before set, .common)) .nothing rest
    | '-' :: '-' :: rest =>
      readList flags bound (some (joined flags before set, .difference)) .nothing rest
    | '~' :: '~' :: rest =>
      readList flags bound (some (joined flags before set, .symmetric)) .nothing rest
    | text => do
      let (member, left) ← readRange? flags text
      readList flags bound before (.either set member) left

end

/-- A bracketed set behind its opening bracket, and what is left. -/
def readBracket? (flags : Flags) (text : Text) : Option (CharSet × Text) :=
  readBracket flags (2 * text.length + 2) text

end Scaffold.Pattern
