import Scaffold.Text.Cursor

/-!
# Patterns

Patterns over text and where they match. A pattern is given its meaning by `Pattern.ends`: from a
cursor in a text it lists the cursors at which a match may end, each place once, the preferred one
first. An earlier alternative is preferred to a later one, and a longer repetition to a shorter
one unless it is reluctant. A search takes the leftmost cursor at which there is a match, and
there the preferred end.
-/
namespace Scaffold

/-- A pattern over text. -/
inductive Pattern where
  /-- Matches the empty text. -/
  | empty
  /-- Matches one character of a set. -/
  | one (set : CharSet)
  /-- Matches at least and at most so many characters of a set, if there is a limit. It prefers
  many, and few if it is reluctant. -/
  | run (set : CharSet) (least : Nat) (most : Option Nat) (reluctant : Bool)
  /-- Matches the first pattern and then the second. -/
  | both (first second : Pattern)
  /-- Matches one of two patterns and prefers the first. -/
  | either (first second : Pattern)
  /-- Matches a pattern at least and at most so many times, in the same way. -/
  | repeated (inner : Pattern) (least : Nat) (most : Option Nat) (reluctant : Bool)
  /-- Matches a pattern and remembers the matched text under a number. -/
  | group (index : Nat) (inner : Pattern)
  /-- Matches the empty text where a condition holds. -/
  | boundary (boundary : Boundary)
deriving DecidableEq, Repr

namespace Pattern

/-- The cursor and those behind the next characters, as long as these are in the set and no more
than allowed. -/
def runFrom (set : CharSet) : Option Nat → Text → List (Nat × Text) → Text → List Cursor
  | some 0, before, groups, after => [⟨before, after, groups⟩]
  | _, before, groups, [] => [⟨before, [], groups⟩]
  | most, before, groups, c :: rest =>
    ⟨before, c :: rest, groups⟩ ::
      if set.holds c then runFrom set (most.map (· - 1)) (c :: before) groups rest else []

/-- Where runs of characters of a set from a cursor end, the preferred end first. -/
def runEnds (set : CharSet) (least : Nat) (most : Option Nat) (reluctant : Bool)
    (cursor : Cursor) : List Cursor :=
  let places := (runFrom set most cursor.before cursor.groups cursor.after).drop least
  if reluctant then places else places.reverse

/-- What a walk through the repetitions of a step has come to. -/
structure Walk where
  /-- The rounds begun: how many more were allowed, if there is a limit, and the place. -/
  begun : List (Option Nat × Nat)
  /-- Where the repetition may end, the preferred end last. -/
  ends : List Cursor

/-- A further place at which the repetition may end. -/
def Walk.leave (walk : Walk) (cursor : Cursor) : Walk := { walk with ends := cursor :: walk.ends }

/-- Repeats a step from a cursor, as often as allowed. A round that consumes nothing ends a
repetition without limit, and a round that was begun before is not begun again: it leads nowhere
new. The first argument bounds the depth of the walk. -/
def walkFrom (step : Cursor → List Cursor) (reluctant : Bool) :
    Nat → Option Nat → Walk → Cursor → Walk
  | 0, _, walk, _ => walk
  | depth + 1, more, walk, cursor =>
    if walk.begun.contains (more, cursor.left) then walk
    else
      let entered := { walk with begun := (more, cursor.left) :: walk.begun }
      let entered := if reluctant then entered.leave cursor else entered
      let walked :=
        if more = some 0 then entered
        else (step cursor).foldl (fun walk next =>
          if more = none ∧ next.left = cursor.left then walk.leave next
          else walkFrom step reluctant depth (more.map (· - 1)) walk next) entered
      if reluctant then walked else walked.leave cursor

/-- Where repetitions of a step from a cursor end, the preferred end first. -/
def repeatEnds (step : Cursor → List Cursor) (reluctant : Bool) (most : Option Nat)
    (cursor : Cursor) : List Cursor :=
  let depth := cursor.left + most.getD 0 + 1
  Cursor.distinct (walkFrom step reluctant depth most ⟨[], []⟩ cursor).ends.reverse

/-- Where so many repetitions of a step end. -/
def timesEnds (step : Cursor → List Cursor) (count : Nat) (cursor : Cursor) : List Cursor :=
  count.repeat (fun cursors => Cursor.distinct (cursors.flatMap step)) [cursor]

/-- Where matches of a pattern from a cursor end, the preferred end first. -/
def ends : Pattern → Cursor → List Cursor
  | empty, cursor => [cursor]
  | one set, cursor =>
    match cursor.after with
    | [] => []
    | c :: rest =>
      if set.holds c then [{ cursor with before := c :: cursor.before, after := rest }] else []
  | run set least most reluctant, cursor => runEnds set least most reluctant cursor
  | both first second, cursor => Cursor.distinct ((first.ends cursor).flatMap second.ends)
  | either first second, cursor => Cursor.distinct (first.ends cursor ++ second.ends cursor)
  | repeated inner least most reluctant, cursor =>
    Cursor.distinct ((timesEnds inner.ends least cursor).flatMap
      (repeatEnds inner.ends reluctant (most.map (· - least))))
  | group index inner, cursor =>
    (inner.ends cursor).map fun next => next.remember index (cursor.textUntil next)
  | boundary condition, cursor => if condition.holds cursor then [cursor] else []

/-- One match in a text. -/
structure Found where
  /-- The text before the match, last character first. -/
  before : Text
  /-- The matched text. -/
  text : Text
  /-- The text after the match. -/
  after : Text
  /-- The texts of the groups that took part, by ascending number. -/
  groups : List (Nat × Text)
deriving DecidableEq, Repr

/-- The match between two cursors. -/
def found (first last : Cursor) : Found :=
  ⟨first.before, first.textUntil last, last.after, last.groups⟩

/-- The leftmost match at or after a place, whose text before it is given in reverse. -/
def firstFrom (pattern : Pattern) (before : Text) : Text → Option Found
  | [] => (pattern.ends ⟨before, [], []⟩).head?.map (found ⟨before, [], []⟩)
  | c :: rest =>
    match pattern.ends ⟨before, c :: rest, []⟩ with
    | last :: _ => some (found ⟨before, c :: rest, []⟩ last)
    | [] => firstFrom pattern (c :: before) rest

/-- The leftmost match in a text. -/
def first? (pattern : Pattern) (text : Text) : Option Found := pattern.firstFrom [] text

/-- Matches from a place, without overlap. `covered` counts the characters that the previous match
still covers; `touching` tells that it ended here, where no empty match may follow it. -/
def allFrom (pattern : Pattern) (before : Text) (covered : Nat) (touching : Bool) :
    Text → List Found
  | [] =>
    if covered = 0 then
      match pattern.ends ⟨before, [], []⟩ with
      | last :: _ => if touching then [] else [found ⟨before, [], []⟩ last]
      | [] => []
    else []
  | c :: rest =>
    match covered with
    | more + 1 => allFrom pattern (c :: before) more (more == 0) rest
    | 0 =>
      match pattern.ends ⟨before, c :: rest, []⟩ with
      | [] => allFrom pattern (c :: before) 0 false rest
      | last :: _ =>
        let match' := found ⟨before, c :: rest, []⟩ last
        match match'.text.length with
        | 0 =>
          if touching then allFrom pattern (c :: before) 0 false rest
          else match' :: allFrom pattern (c :: before) 0 false rest
        | length + 1 => match' :: allFrom pattern (c :: before) length (length == 0) rest

/-- The matches of a pattern in a text, from the left and without overlap. -/
def all (pattern : Pattern) (text : Text) : List Found := pattern.allFrom [] 0 false text

/-- The last of the matches in a text. -/
def last? (pattern : Pattern) (text : Text) : Option Found := (pattern.all text).getLast?

end Pattern

end Scaffold
