import Scaffold.Proofs.Text.Match
import Scaffold.Text.Pattern.Reader

/-!
# What a pattern matches

A text between two others is a match of a pattern (`Pattern.Matches`), told by the shape of the
pattern and without the order in which matches are tried. The cursors at which a match may end are
exactly those behind such texts (`exact_ends`), so a search finds a match exactly if there is one
(`first?_isSome_iff`), and what it finds is one (`matches_of_first?`). A pattern that was read item
by item matches what its items match one after the other (`matches_sequence`).
-/
namespace Scaffold

/-- Whether a condition holds does not depend on what groups remember. -/
theorem Boundary.holds_groups (condition : Boundary) (before after : Text)
    (groups others : List (Nat × Text)) :
    condition.holds ⟨before, after, groups⟩ = condition.holds ⟨before, after, others⟩ := by
  cases condition <;> rfl

namespace Pattern

/-- The text is a match between the text before it, last character first, and the text after
it. -/
def Matches : Pattern → Text → Text → Text → Prop
  | empty, _, text, _ => text = []
  | one set, _, text, _ => ∃ c, text = [c] ∧ set.holds c = true
  | run set least most _, _, text, _ =>
    (∀ c ∈ text, set.holds c = true) ∧ least ≤ text.length ∧
      ∀ limit, most = some limit → text.length ≤ limit
  | both first second, before, text, after =>
    ∃ front rest, text = front ++ rest ∧ first.Matches before front (rest ++ after) ∧
      second.Matches (front.reverse ++ before) rest after
  | either first second, before, text, after =>
    first.Matches before text after ∨ second.Matches before text after
  | repeated inner least most _, before, text, after =>
    ∃ count, least ≤ count ∧ (∀ limit, most = some limit → count ≤ limit) ∧
      Rounds inner.Matches count before text after
  | group _ inner, before, text, after => inner.Matches before text after
  | boundary condition, before, text, after =>
    text = [] ∧ condition.holds ⟨before, after, []⟩ = true

/-- The pattern repeats nothing but characters. -/
def isFlat : Pattern → Bool
  | empty | one _ | run _ _ _ _ | boundary _ => true
  | both first second | either first second => first.isFlat && second.isFlat
  | repeated _ _ _ _ => false
  | group _ inner => inner.isFlat

/-- No repetition asks for more rounds than it allows. -/
def isOrdered : Pattern → Bool
  | empty | one _ | run _ _ _ _ | boundary _ => true
  | both first second | either first second => first.isOrdered && second.isOrdered
  | repeated inner least most _ => inner.isOrdered && most.all (least ≤ ·)
  | group _ inner => inner.isOrdered

/-- That is so where nothing but characters is repeated. -/
theorem isOrdered_of_isFlat {pattern : Pattern} (flat : pattern.isFlat = true) :
    pattern.isOrdered = true := by
  induction pattern with
  | empty | one _ | run _ _ _ _ | boundary _ => rfl
  | both first second firstIh secondIh | either first second firstIh secondIh =>
    obtain ⟨one, two⟩ := (Bool.and_eq_true _ _).mp flat
    exact (Bool.and_eq_true _ _).mpr ⟨firstIh one, secondIh two⟩
  | repeated inner least most reluctant ih => exact absurd flat Bool.false_ne_true
  | group index inner ih => exact ih flat

/-- A cursor stands behind characters of a set, at least so many and no more than allowed. -/
def IsBehind (set : CharSet) (least : Nat) (most : Option Nat) (groups : List (Nat × Text))
    (before after : Text) (next : Cursor) : Prop :=
  ∃ text rest, after = text ++ rest ∧ (∀ c ∈ text, set.holds c = true) ∧ least ≤ text.length ∧
    (∀ limit, most = some limit → text.length ≤ limit) ∧
    next = ⟨text.reverse ++ before, rest, groups⟩

section

variable {set : CharSet} {least : Nat} {most : Option Nat} {groups : List (Nat × Text)}
  {before after : Text} {next : Cursor} {c : Char}

/-- Where no character is left or allowed there is one such cursor at most. -/
theorem isBehind_of_stuck (stuck : after = [] ∨ most = some 0) :
    IsBehind set least most groups before after next ↔
      least = 0 ∧ next = ⟨before, after, groups⟩ := by
  constructor
  · rintro ⟨text, rest, same, -, enough, within, rfl⟩
    obtain rfl : text = [] := by
      rcases stuck with rfl | rfl
      · exact (List.append_eq_nil_iff.mp same.symm).1
      · simpa using within 0 rfl
    exact ⟨by simpa using enough, by rw [same]; rfl⟩
  · rintro ⟨rfl, rfl⟩
    exact ⟨[], after, rfl, by simp, Nat.le_refl _, by simp, rfl⟩

/-- In front of a character such a cursor stands there or behind the character. -/
theorem isBehind_cons (allowed : most ≠ some 0) :
    IsBehind set least most groups before (c :: after) next ↔
      least = 0 ∧ next = ⟨before, c :: after, groups⟩ ∨ set.holds c = true ∧
        IsBehind set (least - 1) (most.map (· - 1)) groups (c :: before) after next := by
  have limits : ∀ text : Text, (∀ limit, most = some limit → (c :: text).length ≤ limit) ↔
      ∀ limit, most.map (· - 1) = some limit → text.length ≤ limit := by
    intro text
    rcases most with _ | most
    · simp
    · have positive : most ≠ 0 := fun same => allowed (same ▸ rfl)
      simp only [Option.some.injEq, forall_eq', Option.map_some, List.length_cons]
      omega
  constructor
  · rintro ⟨text, rest, same, all, enough, within, rfl⟩
    cases text with
    | nil => exact .inl ⟨by simpa using enough, by rw [same]; rfl⟩
    | cons d text =>
      obtain ⟨rfl, rfl⟩ := List.cons.inj same
      obtain ⟨held, others⟩ := List.forall_mem_cons.mp all
      exact .inr ⟨held, text, rest, rfl, others, Nat.sub_le_of_le_add enough,
        (limits text).mp within, by simp⟩
  · rintro (⟨rfl, rfl⟩ | ⟨held, text, rest, rfl, all, enough, within, rfl⟩)
    · exact ⟨[], c :: after, rfl, by simp, Nat.le_refl _, by simp, rfl⟩
    · exact ⟨c :: text, rest, rfl, List.forall_mem_cons.mpr ⟨held, all⟩,
        Nat.le_add_of_sub_le enough, (limits text).mpr within, by simp⟩

/-- A run goes on behind a character of its set. -/
theorem runFrom_cons (allowed : most ≠ some 0) : runFrom set most before groups (c :: after) =
    ⟨before, c :: after, groups⟩ ::
      if set.holds c then runFrom set (most.map (· - 1)) (c :: before) groups after else [] := by
  rcases most with _ | _ | most
  · rfl
  · exact absurd rfl allowed
  · rfl

/-- A run ends where it begins if no character is left or allowed. -/
theorem runFrom_of_stuck (stuck : after = [] ∨ most = some 0) :
    runFrom set most before groups after = [⟨before, after, groups⟩] := by
  rcases stuck with rfl | rfl
  · rcases most with _ | _ | most <;> rfl
  · cases after <;> rfl

/-- What is left of a list without its first members. -/
theorem mem_drop_cons {first : Cursor} {rest : List Cursor} :
    next ∈ (first :: rest).drop least ↔
      least = 0 ∧ next = first ∨ next ∈ rest.drop (least - 1) := by
  cases least <;> simp

/-- The cursors of a run that are far enough stand behind enough characters of its set. -/
theorem mem_drop_runFrom : next ∈ (runFrom set most before groups after).drop least ↔
    IsBehind set least most groups before after next := by
  induction after generalizing least most before with
  | nil =>
    rw [runFrom_of_stuck (.inl rfl), isBehind_of_stuck (.inl rfl), mem_drop_cons]
    simp
  | cons c after ih =>
    by_cases none : most = some 0
    · rw [runFrom_of_stuck (.inr none), isBehind_of_stuck (.inr none), mem_drop_cons]
      simp
    · rw [runFrom_cons none, isBehind_cons none, mem_drop_cons]
      refine or_congr_right ?_
      split
      · rename_i held
        rw [ih, and_iff_right held]
      · rename_i other
        simp [other]

end

/-- Where runs end, without their order. -/
theorem mem_runEnds {set : CharSet} {least : Nat} {most : Option Nat} {reluctant : Bool}
    {cursor next : Cursor} : next ∈ runEnds set least most reluctant cursor ↔
      next ∈ (runFrom set most cursor.before cursor.groups cursor.after).drop least := by
  unfold runEnds
  split <;> simp

/-- A character of a set ends behind one. -/
theorem exact_one (set : CharSet) : Exact (one set).ends (one set).Matches := by
  constructor
  · intro cursor next member
    unfold ends at member
    split at member
    · exact absurd member List.not_mem_nil
    · rename_i c rest follows
      split at member
      · rename_i held
        obtain rfl := List.mem_singleton.mp member
        exact ⟨[c], ⟨follows, rfl⟩, c, rfl, held⟩
      · exact absurd member List.not_mem_nil
  · rintro cursor _ after follows ⟨c, rfl, held⟩
    have split : cursor.after = c :: after := follows
    refine ⟨{ cursor with before := c :: cursor.before, after }, ?_, split, rfl⟩
    simp [ends, split, held]

/-- A run ends behind enough characters of its set. -/
theorem exact_run (set : CharSet) (least : Nat) (most : Option Nat) (reluctant : Bool) :
    Exact (run set least most reluctant).ends (run set least most reluctant).Matches := by
  constructor
  · intro cursor next member
    obtain ⟨text, rest, follows, all, enough, within, rfl⟩ :=
      mem_drop_runFrom.mp (mem_runEnds.mp member)
    exact ⟨text, ⟨follows, rfl⟩, all, enough, within⟩
  · rintro cursor text after follows ⟨all, enough, within⟩
    exact ⟨⟨text.reverse ++ cursor.before, after, cursor.groups⟩,
      mem_runEnds.mpr (mem_drop_runFrom.mpr
        ⟨text, after, follows, all, enough, within, rfl⟩), follows, rfl⟩

/-- A group ends where its pattern does. -/
theorem exact_group {inner : Pattern} (exact : Exact inner.ends inner.Matches) (index : Nat) :
    Exact (group index inner).ends (group index inner).Matches := by
  constructor
  · intro cursor next member
    obtain ⟨last, there, rfl⟩ := List.mem_map.mp member
    obtain ⟨text, passed, matched⟩ := exact.sound there
    exact ⟨text, ⟨passed.after, passed.before⟩, matched⟩
  · intro cursor text after follows matched
    obtain ⟨next, there, passed⟩ := exact.complete follows matched
    exact ⟨_, List.mem_map.mpr ⟨next, there, rfl⟩, passed.after, passed.before⟩

/-- A boundary ends where it stands, whatever groups are known. -/
theorem exact_boundary (condition : Boundary) :
    Exact (boundary condition).ends (boundary condition).Matches := by
  constructor
  · intro cursor next member
    unfold ends at member
    split at member
    · rename_i held
      obtain rfl := List.mem_singleton.mp member
      exact ⟨[], .refl next, rfl, by rw [← held]; exact condition.holds_groups _ _ _ _⟩
    · exact absurd member List.not_mem_nil
  · rintro cursor _ after follows ⟨rfl, held⟩
    have same : cursor.after = after := follows
    rw [← same, condition.holds_groups _ _ [] cursor.groups] at held
    refine ⟨cursor, ?_, .refl cursor⟩
    show cursor ∈ if condition.holds cursor = true then [cursor] else []
    rw [if_pos held]
    exact List.mem_cons_self

/-- **A pattern ends behind its matches, and nowhere else.** -/
theorem exact_ends {pattern : Pattern} (ordered : pattern.isOrdered = true) :
    Exact pattern.ends pattern.Matches := by
  induction pattern with
  | empty =>
    constructor
    · intro cursor next member
      obtain rfl := List.mem_singleton.mp member
      exact ⟨[], .refl next, rfl⟩
    · rintro cursor _ after - rfl
      exact ⟨cursor, List.mem_cons_self, .refl cursor⟩
  | one set => exact exact_one set
  | run set least most reluctant => exact exact_run set least most reluctant
  | both first second firstIh secondIh =>
    obtain ⟨one, two⟩ := (Bool.and_eq_true _ _).mp ordered
    exact (firstIh one).both (secondIh two)
  | either first second firstIh secondIh =>
    obtain ⟨one, two⟩ := (Bool.and_eq_true _ _).mp ordered
    exact (firstIh one).either (secondIh two)
  | repeated inner least most reluctant ih =>
    obtain ⟨inside, possible⟩ := (Bool.and_eq_true _ _).mp ordered
    refine (ih inside).between reluctant least most fun limit bound => ?_
    simpa [bound] using possible
  | group index inner ih => exact exact_group (ih ordered) index
  | boundary condition => exact exact_boundary condition

variable {pattern : Pattern}

/-- Nothing is found exactly if there is no match at any place. -/
theorem firstFrom_eq_none_iff (ordered : pattern.isOrdered = true) {text : Text} : ∀ {before : Text},
    pattern.firstFrom before text = none ↔ ∀ front matched after,
      text = front ++ matched ++ after →
        ¬pattern.Matches (front.reverse ++ before) matched after := by
  have here : ∀ {before text : Text}, pattern.ends ⟨before, text, []⟩ = [] ↔
      ∀ matched after, text = matched ++ after → ¬pattern.Matches before matched after := by
    intro before text
    constructor
    · intro none matched after split found
      obtain ⟨next, member, -⟩ := @(exact_ends ordered).complete ⟨before, text, []⟩ _ _ split found
      rw [none] at member
      exact absurd member List.not_mem_nil
    · intro none
      rw [List.eq_nil_iff_forall_not_mem]
      intro next member
      obtain ⟨matched, passed, found⟩ := (exact_ends ordered).sound member
      exact none matched next.after passed.after found
  induction text with
  | nil =>
    intro before
    rw [firstFrom, Option.map_eq_none_iff, List.head?_eq_none_iff, here]
    constructor
    · intro none front matched after split
      obtain ⟨left, rfl⟩ := List.append_eq_nil_iff.mp split.symm
      obtain ⟨rfl, rfl⟩ := List.append_eq_nil_iff.mp left
      exact none [] [] rfl
    · exact fun none matched after split => none [] matched after split
  | cons c rest ih =>
    intro before
    rw [firstFrom]
    have parts : (∀ front matched after, c :: rest = front ++ matched ++ after →
          ¬pattern.Matches (front.reverse ++ before) matched after) ↔
        (∀ matched after, c :: rest = matched ++ after → ¬pattern.Matches before matched after) ∧
        ∀ front matched after, rest = front ++ matched ++ after →
          ¬pattern.Matches (front.reverse ++ c :: before) matched after := by
      constructor
      · intro none
        refine ⟨fun matched after split => none [] matched after split, ?_⟩
        rintro front matched after rfl
        have later := none (c :: front) matched after rfl
        rwa [List.reverse_cons, List.append_assoc] at later
      · rintro ⟨now, later⟩ front matched after split
        cases front with
        | nil => exact now matched after split
        | cons d front =>
          obtain ⟨rfl, rfl⟩ := List.cons.inj split
          rw [List.reverse_cons, List.append_assoc]
          exact later front matched after rfl
    rw [parts, ← here]
    split
    · rename_i last others ends
      simp [ends]
    · rename_i none
      rw [ih]
      simp [none]

/-- There is a match in a text. -/
def Occurs (pattern : Pattern) (text : Text) : Prop :=
  ∃ front matched after, text = front ++ matched ++ after ∧
    pattern.Matches front.reverse matched after

/-- A search finds a match exactly if there is one. -/
theorem first?_isSome_iff (ordered : pattern.isOrdered = true) {text : Text} :
    (pattern.first? text).isSome = true ↔ pattern.Occurs text := by
  rw [← Option.ne_none_iff_isSome, first?, ne_eq, firstFrom_eq_none_iff ordered]
  simp [Occurs]

/-- The text between a place and one at which a match may end is a match, with the text around
it. -/
theorem matches_found (ordered : pattern.isOrdered = true) {before text : Text} {last : Cursor}
    (member : last ∈ pattern.ends ⟨before, text, []⟩) :
    let found := Pattern.found ⟨before, text, []⟩ last
    before.reverse ++ text = found.before.reverse ++ found.text ++ found.after ∧
      pattern.Matches found.before found.text found.after := by
  obtain ⟨matched, passed, held⟩ := (exact_ends ordered).sound member
  have split : text = matched ++ last.after := passed.after
  have same : (Pattern.found ⟨before, text, []⟩ last).text = matched := by
    show text.take (text.length - last.after.length) = matched
    rw [split]
    simp
  intro found
  rw [same]
  exact ⟨by rw [split, ← List.append_assoc]; rfl, held⟩

/-- What is found is a match. -/
theorem matches_of_first? (ordered : pattern.isOrdered = true) {text : Text} {found : Found}
    (first : pattern.first? text = some found) :
    text = found.before.reverse ++ found.text ++ found.after ∧
      pattern.Matches found.before found.text found.after := by
  have general : ∀ {text before : Text}, pattern.firstFrom before text = some found →
      before.reverse ++ text = found.before.reverse ++ found.text ++ found.after ∧
        pattern.Matches found.before found.text found.after := by
    intro text
    induction text with
    | nil =>
      intro before first
      rw [firstFrom, Option.map_eq_some_iff] at first
      obtain ⟨last, head, rfl⟩ := first
      exact matches_found ordered (List.mem_of_head? head)
    | cons c rest ih =>
      intro before first
      rw [firstFrom] at first
      split at first
      · rename_i last others ends
        cases first
        exact matches_found ordered (by rw [ends]; exact List.mem_cons_self)
      · have later := ih first
        rwa [List.reverse_cons, List.append_assoc] at later
  exact general first

/-- Everything that is found is a match. -/
theorem matches_of_mem_all (ordered : pattern.isOrdered = true) {text : Text} {found : Found}
    (member : found ∈ pattern.all text) :
    text = found.before.reverse ++ found.text ++ found.after ∧
      pattern.Matches found.before found.text found.after := by
  have general : ∀ {text before : Text} {covered : Nat} {touching : Bool},
      found ∈ pattern.allFrom before covered touching text →
      before.reverse ++ text = found.before.reverse ++ found.text ++ found.after ∧
        pattern.Matches found.before found.text found.after := by
    intro text
    induction text with
    | nil =>
      intro before covered touching member
      rw [allFrom] at member
      split at member
      · split at member
        · rename_i last others ends
          split at member
          · exact absurd member List.not_mem_nil
          · rw [List.mem_singleton.mp member]
            exact matches_found ordered (by rw [ends]; exact List.mem_cons_self)
        · exact absurd member List.not_mem_nil
      · exact absurd member List.not_mem_nil
    | cons c rest ih =>
      intro before covered touching member
      have later : ∀ {covered : Nat} {touching : Bool},
          found ∈ pattern.allFrom (c :: before) covered touching rest →
          before.reverse ++ c :: rest = found.before.reverse ++ found.text ++ found.after ∧
            pattern.Matches found.before found.text found.after := by
        intro covered touching inside
        have behind := ih inside
        rwa [List.reverse_cons, List.append_assoc] at behind
      cases covered with
      | succ more => exact later member
      | zero =>
        rw [allFrom] at member
        split at member
        · exact later member
        · rename_i last others ends
          have here := @matches_found _ ordered before (c :: rest) last
            (by rw [ends]; exact List.mem_cons_self)
          dsimp only at member
          split at member
          · split at member
            · exact later member
            · rcases List.mem_cons.mp member with rfl | behind
              · exact here
              · exact later behind
          · rcases List.mem_cons.mp member with rfl | behind
            · exact here
            · exact later behind
  exact general member

/-- The first of all matches is the one that is found first. -/
theorem head?_all (text : Text) : (pattern.all text).head? = pattern.first? text := by
  have general : ∀ {text before : Text},
      (pattern.allFrom before 0 false text).head? = pattern.firstFrom before text := by
    intro text
    induction text with
    | nil =>
      intro before
      rw [allFrom, firstFrom, if_pos rfl]
      split <;> simp_all
    | cons c rest ih =>
      intro before
      rw [allFrom, firstFrom]
      split
      · rename_i none
        rw [none]
        exact ih
      · rename_i last others ends
        rw [ends]
        simp only [Bool.false_eq_true, ↓reduceIte]
        split <;> rfl
  exact general

/-- There is a last match exactly if there is one. -/
theorem last?_isSome_iff (ordered : pattern.isOrdered = true) {text : Text} :
    (pattern.last? text).isSome = true ↔ pattern.Occurs text := by
  rw [← first?_isSome_iff ordered, ← head?_all, last?]
  cases pattern.all text with
  | nil => rfl
  | cons found rest => simp [List.getLast?_cons]

/-- The pattern of items read one after the other. -/
def sequence (items : List Pattern) : Pattern := items.foldl andThen .empty

/-- The items of a word, each of which is one of its characters. -/
def word (text : Text) : List Pattern := text.map fun c => .one (.only c)

/-- Matches of the items one after the other make the text. -/
def MatchesAll : List Pattern → Text → Text → Text → Prop
  | [], _, text, _ => text = []
  | item :: items, before, text, after =>
    ∃ front rest, text = front ++ rest ∧ item.Matches before front (rest ++ after) ∧
      MatchesAll items (front.reverse ++ before) rest after

variable {before text after : Text} {items more : List Pattern}

/-- A further item matches behind what the others match. -/
theorem matches_andThen {done item : Pattern} :
    (done.andThen item).Matches before text after ↔ (both done item).Matches before text after := by
  cases done with
  | empty =>
    constructor
    · exact fun matched => ⟨[], text, rfl, rfl, matched⟩
    · rintro ⟨_, rest, rfl, rfl, matched⟩
      exact matched
  | _ => rfl

/-- **A sequence matches what its items match one after the other.** -/
theorem matches_sequence :
    (sequence items).Matches before text after ↔ MatchesAll items before text after := by
  have general : ∀ (items : List Pattern) (done : Pattern) (text : Text),
      (items.foldl andThen done).Matches before text after ↔
        ∃ front rest, text = front ++ rest ∧ done.Matches before front (rest ++ after) ∧
          MatchesAll items (front.reverse ++ before) rest after := by
    intro items
    induction items with
    | nil =>
      intro done text
      constructor
      · exact fun matched => ⟨text, [], by simp, matched, rfl⟩
      · rintro ⟨front, _, rfl, matched, rfl⟩
        simpa using matched
    | cons item items ih =>
      intro done text
      rw [List.foldl_cons, ih]
      simp only [matches_andThen]
      constructor
      · rintro ⟨_, rest, rfl, ⟨front, middle, rfl, first, second⟩, others⟩
        refine ⟨front, middle ++ rest, by simp, by simpa using first, middle, rest, rfl, second, ?_⟩
        simpa using others
      · rintro ⟨front, _, rfl, first, middle, rest, rfl, second, others⟩
        refine ⟨front ++ middle, rest, by simp,
          ⟨front, middle, rfl, by simpa using first, second⟩, ?_⟩
        simpa using others
  rw [sequence, general]
  constructor
  · rintro ⟨_, rest, rfl, rfl, others⟩
    exact others
  · exact fun others => ⟨[], text, rfl, rfl, others⟩

/-- Items behind others match behind what those match. -/
theorem matchesAll_append : MatchesAll (items ++ more) before text after ↔
    ∃ front rest, text = front ++ rest ∧ MatchesAll items before front (rest ++ after) ∧
      MatchesAll more (front.reverse ++ before) rest after := by
  induction items generalizing before text with
  | nil =>
    constructor
    · exact fun matched => ⟨[], text, rfl, rfl, matched⟩
    · rintro ⟨_, rest, rfl, rfl, matched⟩
      exact matched
  | cons item items ih =>
    simp only [List.cons_append, MatchesAll, ih]
    constructor
    · rintro ⟨front, _, rfl, first, middle, rest, rfl, second, others⟩
      refine ⟨front ++ middle, rest, by simp,
        ⟨front, middle, rfl, by simpa using first, second⟩, ?_⟩
      simpa using others
    · rintro ⟨_, rest, rfl, ⟨front, middle, rfl, first, second⟩, others⟩
      refine ⟨front, middle ++ rest, by simp, by simpa using first, middle, rest, rfl, second, ?_⟩
      simpa using others

/-- The items of a word match the word alone. -/
theorem matchesAll_word {letters : Text} :
    MatchesAll (word letters) before text after ↔ text = letters := by
  induction letters generalizing before text with
  | nil => rfl
  | cons c letters ih =>
    show (∃ front rest, text = front ++ rest ∧
      (∃ d, front = [d] ∧ (CharSet.only c).holds d = true) ∧
      MatchesAll (word letters) (front.reverse ++ before) rest after) ↔ text = c :: letters
    constructor
    · rintro ⟨_, rest, rfl, ⟨d, rfl, held⟩, others⟩
      rw [CharSet.holds_only.mp held, ih.mp others]
      rfl
    · rintro rfl
      exact ⟨[c], letters, rfl, ⟨c, rfl, CharSet.holds_only.mpr rfl⟩, ih.mpr rfl⟩

/-- A single item matches what it matches. -/
theorem matchesAll_singleton {item : Pattern} :
    MatchesAll [item] before text after ↔ item.Matches before text after := by
  constructor
  · rintro ⟨front, _, rfl, matched, rfl⟩
    simpa using matched
  · exact fun matched => ⟨text, [], by simp, by simpa using matched, rfl⟩

/-- Blanks, at least so many, match a repeated blank. -/
def blanks (least : Nat) : Pattern := .run .blank least none false

/-- A repeated blank matches blanks. -/
theorem matches_blanks {least : Nat} : (blanks least).Matches before text after ↔
    (∀ c ∈ text, Text.isBlank c = true) ∧ least ≤ text.length := by
  simp [blanks, Matches, CharSet.holds]

end Pattern

end Scaffold
