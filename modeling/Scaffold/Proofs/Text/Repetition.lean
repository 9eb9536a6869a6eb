import Scaffold.Text.Pattern

/-!
# Repeated matches

Where the repetitions of a pattern end. A walk through them visits every state, a place with the
number of rounds that are still allowed, at most once. What it finds is reached in as many rounds as
allowed (`reach_of_mem_walkFrom`). It also misses nothing: a state that was begun before is either
finished, so that all its ends are known, or still open further up, and then more rounds were allowed
or more text was left there, so it is another one (`Frame.finished_walkFrom`). So the cursors at
which repetitions end are, place by place, those behind enough matches in a row
(`exists_rounds_of_mem_repeatEnds`, `exists_mem_repeatEnds`).
-/
namespace Scaffold

/-- The second cursor stands behind a text that the first one stands before. -/
structure Cursor.Passes (cursor : Cursor) (text : Text) (next : Cursor) : Prop where
  /-- The text follows the first cursor. -/
  after : cursor.after = text ++ next.after
  /-- It stands before the second one. -/
  before : next.before = text.reverse ++ cursor.before

namespace Cursor

variable {cursor next last : Cursor} {text more : Text}

/-- Every cursor stands behind the empty text. -/
theorem Passes.refl (cursor : Cursor) : cursor.Passes [] cursor := ⟨rfl, rfl⟩

/-- Two texts are passed one after the other. -/
theorem Passes.trans (first : cursor.Passes text next) (second : next.Passes more last) :
    cursor.Passes (text ++ more) last := by
  constructor
  · rw [first.after, second.after, List.append_assoc]
  · rw [second.before, first.before, List.reverse_append, List.append_assoc]

/-- Of the cursors behind a place each knows by what follows it which text was passed. -/
theorem Passes.text_eq (first : cursor.Passes text next) (second : cursor.Passes more last)
    (same : next.left = last.left) : text = more := by
  have texts : text ++ next.after = more ++ last.after := by rw [← first.after, second.after]
  exact (List.append_inj' texts same).1

/-- A cursor of a list is at the place of one that is kept. -/
theorem exists_mem_distinct {cursors : List Cursor} (member : cursor ∈ cursors) :
    ∃ kept ∈ distinct cursors, kept.left = cursor.left := by
  have general : ∀ (cursors : List Cursor) (seen : List Nat), cursor ∈ cursors →
      cursor.left ∈ seen ∨ ∃ kept ∈ distinctFrom seen cursors, kept.left = cursor.left := by
    intro cursors
    induction cursors with
    | nil => intro seen none; exact absurd none List.not_mem_nil
    | cons first rest ih =>
      intro seen member
      rw [distinctFrom]
      rcases List.mem_cons.mp member with rfl | later
      · split
        · rename_i known
          exact .inl (by simpa using known)
        · exact .inr ⟨cursor, List.mem_cons_self, rfl⟩
      · split
        · exact ih seen later
        · rcases ih (first.left :: seen) later with known | ⟨kept, there, same⟩
          · rcases List.mem_cons.mp known with same | known
            · exact .inr ⟨first, List.mem_cons_self, same.symm⟩
            · exact .inl known
          · exact .inr ⟨kept, List.mem_cons_of_mem _ there, same⟩
  cases cursors with
  | nil => exact absurd member List.not_mem_nil
  | cons first more =>
    cases more with
    | nil => exact ⟨cursor, member, rfl⟩
    | cons second rest =>
      rcases general (first :: second :: rest) [] member with none | kept
      · exact absurd none List.not_mem_nil
      · exact kept

/-- Keeping the first cursor of each place adds none. -/
theorem mem_of_mem_distinct {cursors : List Cursor} (kept : cursor ∈ distinct cursors) :
    cursor ∈ cursors := by
  match cursors with
  | [] => exact kept
  | [_] => exact kept
  | first :: second :: rest => exact mem_of_mem_distinctFrom kept

end Cursor

namespace Pattern

/-- The second cursor is reached from the first in rounds of a step, no more than allowed. -/
inductive Reach (step : Cursor → List Cursor) : Option Nat → Cursor → Cursor → Prop where
  /-- No round is made. -/
  | stay (more : Option Nat) (cursor : Cursor) : Reach step more cursor cursor
  /-- A round is made, and others behind it. -/
  | round {more : Option Nat} {cursor next last : Cursor} (allowed : more ≠ some 0)
    (member : next ∈ step cursor) (further : Reach step (more.map (· - 1)) next last) :
    Reach step more cursor last

variable {step : Cursor → List Cursor} {reluctant : Bool} {depth : Nat} {more : Option Nat}
  {walk : Walk} {cursor next : Cursor}

/-- What a walk does at the end of a round: it leaves where the round consumed nothing, and goes on
otherwise. -/
def afterRound (step : Cursor → List Cursor) (reluctant : Bool) (depth : Nat) (more : Option Nat)
    (cursor : Cursor) (walk : Walk) (next : Cursor) : Walk :=
  if more = none ∧ next.left = cursor.left then walk.leave next
  else walkFrom step reluctant depth (more.map (· - 1)) walk next

/-- The rounds of a walk from a cursor, one after the other. -/
def rounds (step : Cursor → List Cursor) (reluctant : Bool) (depth : Nat) (more : Option Nat)
    (cursor : Cursor) (walk : Walk) : Walk :=
  if more = some 0 then walk
  else (step cursor).foldl (afterRound step reluctant depth more cursor) walk

/-- A walk at a state that was not begun before: it may leave before its rounds or after them. -/
theorem walkFrom_of_new (new : (more, cursor.left) ∉ walk.begun) :
    let entered := { walk with begun := (more, cursor.left) :: walk.begun }
    walkFrom step reluctant (depth + 1) more walk cursor =
      if reluctant then rounds step reluctant depth more cursor (entered.leave cursor)
      else (rounds step reluctant depth more cursor entered).leave cursor := by
  have absent : walk.begun.contains (more, cursor.left) = false := by simpa using new
  cases reluctant <;> simp only [walkFrom, absent, Bool.false_eq_true, ↓reduceIte] <;> rfl

/-- A walk at a state that was begun before does nothing. -/
theorem walkFrom_of_begun (begun : (more, cursor.left) ∈ walk.begun) :
    walkFrom step reluctant depth more walk cursor = walk := by
  cases depth with
  | zero => rfl
  | succ depth => simp [walkFrom, begun]

/-- **A walk ends where it began to end or at what is reached.** -/
theorem reach_of_mem_walkFrom : ∀ {more : Option Nat} {walk : Walk} {cursor : Cursor},
    next ∈ (walkFrom step reluctant depth more walk cursor).ends →
    next ∈ walk.ends ∨ Reach step more cursor next := by
  induction depth with
  | zero => exact fun member => .inl member
  | succ depth ih =>
    intro more walk cursor member
    have left : ∀ {entered : Walk}, next ∈ (entered.leave cursor).ends →
        next ∈ entered.ends ∨ Reach step more cursor next := by
      intro entered here
      rcases List.mem_cons.mp here with rfl | earlier
      · exact .inr (.stay more next)
      · exact .inl earlier
    -- One round after the other: each brings what is reached behind it.
    have all : ∀ (cursors : List Cursor) {entered : Walk}, more ≠ some 0 →
        (∀ other ∈ cursors, other ∈ step cursor) →
        next ∈ (cursors.foldl (afterRound step reluctant depth more cursor) entered).ends →
        next ∈ entered.ends ∨ Reach step more cursor next := by
      intro cursors
      induction cursors with
      | nil => exact fun _ _ here => .inl here
      | cons first rest restIh =>
        intro entered allowed steps here
        have member := steps first List.mem_cons_self
        rcases restIh allowed (fun other inside => steps other (List.mem_cons_of_mem _ inside)) here
          with earlier | reached
        · unfold afterRound at earlier
          split at earlier
          · rcases List.mem_cons.mp earlier with rfl | before
            · exact .inr (.round allowed member (.stay _ next))
            · exact .inl before
          · exact (ih earlier).imp_right (.round allowed member)
        · exact .inr reached
    have walked : ∀ {entered : Walk}, next ∈ (rounds step reluctant depth more cursor entered).ends →
        next ∈ entered.ends ∨ Reach step more cursor next := by
      intro entered here
      unfold rounds at here
      split at here
      · exact .inl here
      · rename_i allowed
        exact all _ allowed (fun _ inside => inside) here
    by_cases begun : (more, cursor.left) ∈ walk.begun
    · rw [walkFrom_of_begun begun] at member
      exact .inl member
    · rw [walkFrom_of_new begun] at member
      split at member
      · rcases walked member with entered | reached
        · exact left entered
        · exact .inr reached
      · rcases left member with inside | reached
        · have known := walked inside
          exact known
        · exact .inr reached

/-- Where repetitions end is reached. -/
theorem reach_of_mem_repeatEnds {most : Option Nat}
    (member : next ∈ repeatEnds step reluctant most cursor) : Reach step most cursor next :=
  (reach_of_mem_walkFrom (List.mem_reverse.mp (Cursor.mem_of_mem_distinct member))).resolve_left
    List.not_mem_nil

/-- So many matches stand one behind the other. -/
def Rounds (isMatch : Text → Text → Text → Prop) : Nat → Text → Text → Text → Prop
  | 0, _, text, _ => text = []
  | count + 1, before, text, after =>
    ∃ first rest, text = first ++ rest ∧ isMatch before first (rest ++ after) ∧
      Rounds isMatch count (first.reverse ++ before) rest after

/-- A step goes behind a match, and there is one behind every match. -/
structure Exact (step : Cursor → List Cursor) (isMatch : Text → Text → Text → Prop) : Prop where
  /-- Every step goes behind a match. -/
  sound : ∀ {cursor next : Cursor}, next ∈ step cursor →
    ∃ text, cursor.Passes text next ∧ isMatch cursor.before text next.after
  /-- There is a step behind every match. -/
  complete : ∀ {cursor : Cursor} {text after : Text}, cursor.after = text ++ after →
    isMatch cursor.before text after → ∃ next ∈ step cursor, cursor.Passes text next

variable {isMatch : Text → Text → Text → Prop}

/-- What is reached stands behind matches in a row. -/
theorem Reach.exists_rounds (exact : Exact step isMatch) (reached : Reach step more cursor next) :
    ∃ count text, (∀ limit, more = some limit → count ≤ limit) ∧ cursor.Passes text next ∧
      Rounds isMatch count cursor.before text next.after := by
  induction reached with
  | stay more cursor => exact ⟨0, [], fun _ _ => Nat.zero_le _, .refl cursor, rfl⟩
  | round allowed member further ih =>
    obtain ⟨first, passed, matched⟩ := exact.sound member
    obtain ⟨count, text, within, passing, others⟩ := ih
    refine ⟨count + 1, first ++ text, ?_, passed.trans passing, first, text, rfl, ?_, ?_⟩
    · rintro limit rfl
      have more := within (limit - 1) rfl
      have positive : limit ≠ 0 := fun same => allowed (congrArg some same)
      omega
    · rwa [← passing.after]
    · rwa [← passed.before]

/-- How far a state of a walk is from the end: no step leads to one that is further from it. -/
def rank : Option Nat × Nat → Nat
  | (none, left) => left
  | (some more, _) => more

/-- The ends of all matches in a row from a state of a walk through a text are known. -/
def Finished (isMatch : Text → Text → Text → Prop) (whole : Text) (ends : List Cursor)
    (state : Option Nat × Nat) : Prop :=
  ∀ (count : Nat) (before text after : Text), before.reverse ++ (text ++ after) = whole →
    (text ++ after).length = state.2 → (∀ limit, state.1 = some limit → count ≤ limit) →
    Rounds isMatch count before text after → ∃ kept ∈ ends, kept.left = after.length

variable {whole : Text} {walked last : Walk} {state : Option Nat × Nat}

/-- What is finished stays finished when there are more ends. -/
theorem Finished.mono {ends more : List Cursor} (finished : Finished isMatch whole ends state)
    (kept : ends ⊆ more) : Finished isMatch whole more state := by
  intro count before text after split length within rounds
  obtain ⟨next, member, same⟩ := finished count before text after split length within rounds
  exact ⟨next, kept member, same⟩

/-- A walk goes on: it keeps its ends, and the states that it begins are finished afterwards. -/
structure Onward (isMatch : Text → Text → Text → Prop) (whole : Text) (walk walked : Walk) :
    Prop where
  /-- The ends are kept. -/
  kept : walk.ends ⊆ walked.ends
  /-- What is begun is finished. -/
  begun : ∀ state ∈ walked.begun, state ∈ walk.begun ∨ Finished isMatch whole walked.ends state

/-- A walk that does nothing. -/
theorem Onward.refl (walk : Walk) : Onward isMatch whole walk walk :=
  ⟨fun _ member => member, fun _ member => .inl member⟩

/-- One after the other. -/
theorem Onward.trans (first : Onward isMatch whole walk walked)
    (second : Onward isMatch whole walked last) : Onward isMatch whole walk last := by
  refine ⟨fun _ member => second.kept (first.kept member), fun state member => ?_⟩
  rcases second.begun state member with earlier | finished
  · exact (first.begun state earlier).imp_right fun finished => finished.mono second.kept
  · exact .inr finished

/-- A further end. -/
theorem Onward.leave (walk : Walk) (cursor : Cursor) :
    Onward isMatch whole walk (walk.leave cursor) :=
  ⟨fun _ member => List.mem_cons_of_mem _ member, fun _ member => .inl member⟩

/-- The states that a walk has begun are finished but for those that are at least so far from the
end. -/
def OpenFrom (isMatch : Text → Text → Text → Prop) (whole : Text) (least : Nat) (walk : Walk) :
    Prop :=
  ∀ state ∈ walk.begun, least ≤ rank state ∨ Finished isMatch whole walk.ends state

/-- That stays so when the walk goes on. -/
theorem OpenFrom.onward {least : Nat} (before : OpenFrom isMatch whole least walk)
    (progress : Onward isMatch whole walk walked) : OpenFrom isMatch whole least walked := by
  intro state member
  rcases progress.begun state member with earlier | finished
  · exact (before state earlier).imp_right fun finished => finished.mono progress.kept
  · exact .inr finished

/-- A state is finished once its place is an end and what every step from it leads to is finished.
A step that consumes nothing leads nowhere new. -/
theorem finished_of_steps (exact : Exact step isMatch) (inside : cursor.before.reverse ++ cursor.after = whole)
    {ends : List Cursor} (here : cursor ∈ ends)
    (steps : more ≠ some 0 → ∀ next ∈ step cursor, (more = none ∧ next.left = cursor.left) ∨
      Finished isMatch whole ends (more.map (· - 1), next.left)) :
    Finished isMatch whole ends (more, cursor.left) := by
  intro count
  induction count with
  | zero =>
    rintro before _ after split length within rfl
    exact ⟨cursor, here, length.symm⟩
  | succ count ih =>
    rintro before _ after split length within ⟨first, rest, rfl, matched, others⟩
    obtain ⟨same, follows⟩ := List.append_inj' (inside.trans split.symm) length.symm
    have same : cursor.before = before := List.reverse_inj.mp same
    subst same
    rw [List.append_assoc] at follows
    obtain ⟨next, member, passed⟩ := exact.complete follows matched
    have behind : next.after = rest ++ after :=
      List.append_cancel_left (passed.after.symm.trans follows)
    have allowed : more ≠ some 0 := fun none => absurd (within 0 none) (by omega)
    rcases steps allowed next member with ⟨rfl, still⟩ | finished
    · have empty : first = [] := by
        have lengths := congrArg List.length passed.after
        simp only [Cursor.left] at still
        rw [List.length_append] at lengths
        exact List.eq_nil_of_length_eq_zero (by omega)
      subst empty
      exact ih cursor.before rest after split length (by simp) others
    · refine finished count (first.reverse ++ cursor.before) rest after ?_ ?_ ?_ others
      · rw [← split]
        simp
      · simp [Cursor.left, behind]
      · intro limit same
        cases more with
        | none => simp at same
        | some most =>
          have fits := within most rfl
          simp only [Option.map_some, Option.some.injEq] at same
          omega

/-- A round that consumes something where there is no limit, or makes fewer of them allowed where there
is one, leads nearer to the end. -/
theorem rank_lt {text : Text} (passed : cursor.Passes text next) (allowed : more ≠ some 0)
    (further : ¬(more = none ∧ next.left = cursor.left)) :
    rank (more.map (· - 1), next.left) < rank (more, cursor.left) := by
  cases more with
  | none =>
    have lengths := congrArg List.length passed.after
    rw [List.length_append] at lengths
    simp only [true_and] at further
    simp only [Option.map_none, rank, Cursor.left] at further ⊢
    omega
  | some most =>
    have positive : most ≠ 0 := fun same => allowed (congrArg some same)
    simp only [Option.map_some, rank]
    omega

/-- Walks of a depth miss nothing if they begin less far from the end. -/
def Thorough (step : Cursor → List Cursor) (isMatch : Text → Text → Text → Prop) (whole : Text)
    (reluctant : Bool) (depth : Nat) : Prop :=
  ∀ (more : Option Nat) (walk : Walk) (cursor : Cursor), rank (more, cursor.left) < depth →
    cursor.before.reverse ++ cursor.after = whole →
    OpenFrom isMatch whole (rank (more, cursor.left) + 1) walk →
    Onward isMatch whole walk (walkFrom step reluctant depth more walk cursor) ∧
      Finished isMatch whole (walkFrom step reluctant depth more walk cursor).ends
        (more, cursor.left)

/-- What a round leads to is finished, whether it consumed something or not. -/
theorem Thorough.afterRound (thorough : Thorough step isMatch whole reluctant depth)
    (inside : cursor.before.reverse ++ cursor.after = whole) {text : Text}
    (passed : cursor.Passes text next) (allowed : more ≠ some 0)
    (deep : rank (more, cursor.left) ≤ depth)
    (started : OpenFrom isMatch whole (rank (more, cursor.left)) walk) :
    let walked := Pattern.afterRound step reluctant depth more cursor walk next
    Onward isMatch whole walk walked ∧ ((more = none ∧ next.left = cursor.left) ∨
      Finished isMatch whole walked.ends (more.map (· - 1), next.left)) := by
  unfold Pattern.afterRound
  split
  · rename_i still
    exact ⟨.leave _ _, .inl still⟩
  · rename_i further
    have nearer := rank_lt passed allowed further
    have found : next.before.reverse ++ next.after = whole := by
      rw [← inside, passed.before, passed.after]
      simp
    obtain ⟨progress, finished⟩ := thorough (more.map (· - 1)) walk next (by omega) found fun
      state member =>
      (started state member).imp_left fun far => by omega
    exact ⟨progress, .inr finished⟩

/-- What the rounds of a walk lead to is finished. -/
theorem Thorough.rounds (thorough : Thorough step isMatch whole reluctant depth)
    (exact : Exact step isMatch) (inside : cursor.before.reverse ++ cursor.after = whole)
    (deep : rank (more, cursor.left) ≤ depth)
    (started : OpenFrom isMatch whole (rank (more, cursor.left)) walk) :
    let walked := Pattern.rounds step reluctant depth more cursor walk
    Onward isMatch whole walk walked ∧ (more ≠ some 0 → ∀ next ∈ step cursor,
      (more = none ∧ next.left = cursor.left) ∨
        Finished isMatch whole walked.ends (more.map (· - 1), next.left)) := by
  have all : ∀ (cursors : List Cursor) {entered : Walk}, more ≠ some 0 →
      (∀ next ∈ cursors, next ∈ step cursor) →
      OpenFrom isMatch whole (rank (more, cursor.left)) entered →
      let walked := cursors.foldl (Pattern.afterRound step reluctant depth more cursor) entered
      Onward isMatch whole entered walked ∧ ∀ next ∈ cursors,
        (more = none ∧ next.left = cursor.left) ∨
          Finished isMatch whole walked.ends (more.map (· - 1), next.left) := by
    intro cursors
    induction cursors with
    | nil => exact fun _ _ _ => ⟨.refl _, by simp⟩
    | cons first rest ih =>
      intro entered allowed steps started
      obtain ⟨text, passed, -⟩ := exact.sound (steps first List.mem_cons_self)
      obtain ⟨progress, there⟩ := thorough.afterRound inside passed allowed deep started
      obtain ⟨later, others⟩ := ih allowed
        (fun next member => steps next (List.mem_cons_of_mem _ member)) (started.onward progress)
      refine ⟨progress.trans later, fun next member => ?_⟩
      rcases List.mem_cons.mp member with rfl | behind
      · exact there.imp_right fun finished => finished.mono later.kept
      · exact others next behind
  unfold Pattern.rounds
  split
  · rename_i none
    exact ⟨.refl _, fun allowed => absurd none allowed⟩
  · rename_i allowed
    obtain ⟨progress, finished⟩ := all (step cursor) allowed (fun _ member => member) started
    exact ⟨progress, fun _ => finished⟩

/-- **A walk misses nothing.** By induction on its depth. When a state is entered, every state that
was begun before is finished or further from the end, and so are those that the rounds add. -/
theorem thorough_walkFrom (exact : Exact step isMatch) (whole : Text) (reluctant : Bool)
    (depth : Nat) : Thorough step isMatch whole reluctant depth := by
  induction depth with
  | zero => exact fun _ _ _ deep => absurd deep (Nat.not_lt_zero _)
  | succ depth ih =>
    intro more walk cursor deep inside before
    by_cases begun : (more, cursor.left) ∈ walk.begun
    · rw [walkFrom_of_begun begun]
      exact ⟨.refl walk, (before _ begun).resolve_left (by omega)⟩
    · have entering : ∀ {ends : List Cursor}, walk.ends ⊆ ends → OpenFrom isMatch whole
          (rank (more, cursor.left)) ⟨(more, cursor.left) :: walk.begun, ends⟩ := by
        intro ends kept state member
        rcases List.mem_cons.mp member with rfl | earlier
        · exact .inl (Nat.le_refl _)
        · rcases before state earlier with far | finished
          · exact .inl (by omega)
          · exact .inr (finished.mono kept)
      -- Once the state itself is finished, the walk has made progress from before it was entered.
      have done : ∀ {entered walked : Walk}, entered.begun = (more, cursor.left) :: walk.begun →
          walk.ends ⊆ entered.ends → Onward isMatch whole entered walked →
          Finished isMatch whole walked.ends (more, cursor.left) →
          Onward isMatch whole walk walked := by
        intro entered walked started kept progress finished
        refine ⟨fun _ member => progress.kept (kept member), fun state member => ?_⟩
        rcases progress.begun state member with earlier | later
        · rw [started] at earlier
          rcases List.mem_cons.mp earlier with rfl | outer
          · exact .inr finished
          · exact .inl outer
        · exact .inr later
      rw [walkFrom_of_new begun]
      split
      · obtain ⟨progress, steps⟩ := ih.rounds exact inside (Nat.le_of_lt_succ deep)
          (entering fun _ member => List.mem_cons_of_mem cursor member)
        have finished := finished_of_steps exact inside
          (progress.kept (List.mem_cons_self : cursor ∈ cursor :: walk.ends)) steps
        exact ⟨done rfl (fun _ member => List.mem_cons_of_mem cursor member) progress finished,
          finished⟩
      · obtain ⟨progress, steps⟩ := ih.rounds exact inside (Nat.le_of_lt_succ deep)
          (entering fun _ member => member)
        have finished := finished_of_steps exact inside List.mem_cons_self fun allowed next member =>
          (steps allowed next member).imp_right fun finished =>
            finished.mono fun _ member => List.mem_cons_of_mem cursor member
        exact ⟨@done ⟨_, walk.ends⟩ _ rfl (fun _ member => member) (progress.trans (.leave _ cursor))
          finished, finished⟩

/-- Of the cursors at one place the first is kept, and the text passed is the same. -/
theorem exists_passes_distinct {cursors : List Cursor} {text : Text}
    (passing : ∀ other ∈ cursors, ∃ more, cursor.Passes more other) (member : next ∈ cursors)
    (passed : cursor.Passes text next) :
    ∃ other ∈ Cursor.distinct cursors, cursor.Passes text other := by
  obtain ⟨other, there, same⟩ := Cursor.exists_mem_distinct member
  obtain ⟨more, also⟩ := passing other (Cursor.mem_of_mem_distinct there)
  rw [← also.text_eq passed same]
  exact ⟨other, there, also⟩

/-- Matches told in another way. -/
theorem Exact.congr {isOther : Text → Text → Text → Prop} (exact : Exact step isMatch)
    (same : ∀ before text after, isMatch before text after ↔ isOther before text after) :
    Exact step isOther := by
  obtain rfl : isMatch = isOther :=
    funext fun before => funext fun text => funext fun after => propext (same before text after)
  exact exact

/-- **One step behind another goes behind two matches in a row.** -/
theorem Exact.both {other : Cursor → List Cursor} {isOther : Text → Text → Text → Prop}
    (first : Exact step isMatch) (second : Exact other isOther) :
    Exact (fun cursor => Cursor.distinct ((step cursor).flatMap other))
      fun before text after => ∃ front rest, text = front ++ rest ∧
        isMatch before front (rest ++ after) ∧ isOther (front.reverse ++ before) rest after := by
  have sound : ∀ {cursor next : Cursor}, next ∈ (step cursor).flatMap other →
      ∃ text, cursor.Passes text next ∧ ∃ front rest, text = front ++ rest ∧
        isMatch cursor.before front (rest ++ next.after) ∧
        isOther (front.reverse ++ cursor.before) rest next.after := by
    intro cursor next member
    obtain ⟨middle, there, here⟩ := List.mem_flatMap.mp member
    obtain ⟨front, passed, early⟩ := first.sound there
    obtain ⟨rest, further, late⟩ := second.sound here
    refine ⟨front ++ rest, passed.trans further, front, rest, rfl, ?_, ?_⟩
    · rwa [← further.after]
    · rwa [← passed.before]
  constructor
  · exact fun member => sound (Cursor.mem_of_mem_distinct member)
  · rintro cursor _ after follows ⟨front, rest, rfl, early, late⟩
    rw [List.append_assoc] at follows
    obtain ⟨middle, there, passed⟩ := first.complete follows early
    have behind : middle.after = rest ++ after :=
      List.append_cancel_left (passed.after.symm.trans follows)
    rw [← passed.before] at late
    obtain ⟨next, here, further⟩ := second.complete behind late
    refine exists_passes_distinct (fun other member => ?_)
      (List.mem_flatMap.mpr ⟨middle, there, here⟩) (passed.trans further)
    obtain ⟨text, passes, -⟩ := sound member
    exact ⟨text, passes⟩

/-- **Either of two steps goes behind a match of its own.** -/
theorem Exact.either {other : Cursor → List Cursor} {isOther : Text → Text → Text → Prop}
    (first : Exact step isMatch) (second : Exact other isOther) :
    Exact (fun cursor => Cursor.distinct (step cursor ++ other cursor))
      fun before text after => isMatch before text after ∨ isOther before text after := by
  have sound : ∀ {cursor next : Cursor}, next ∈ step cursor ++ other cursor →
      ∃ text, cursor.Passes text next ∧
        (isMatch cursor.before text next.after ∨ isOther cursor.before text next.after) := by
    intro cursor next member
    rcases List.mem_append.mp member with left | right
    · obtain ⟨text, passed, matched⟩ := first.sound left
      exact ⟨text, passed, .inl matched⟩
    · obtain ⟨text, passed, matched⟩ := second.sound right
      exact ⟨text, passed, .inr matched⟩
  have kept : ∀ {cursor next : Cursor} {text : Text}, next ∈ step cursor ++ other cursor →
      cursor.Passes text next →
      ∃ last ∈ Cursor.distinct (step cursor ++ other cursor), cursor.Passes text last :=
    fun member passed =>
      exists_passes_distinct (fun last inside => (sound inside).imp fun _ found => found.1) member
        passed
  constructor
  · exact fun member => sound (Cursor.mem_of_mem_distinct member)
  · rintro cursor text after follows (left | right)
    · obtain ⟨next, there, passed⟩ := first.complete follows left
      exact kept (List.mem_append_left _ there) passed
    · obtain ⟨next, there, passed⟩ := second.complete follows right
      exact kept (List.mem_append_right _ there) passed

/-- **Repetitions end behind matches in a row, no more than allowed, and nowhere else.** -/
theorem exact_repeatEnds (exact : Exact step isMatch) (reluctant : Bool) (most : Option Nat) :
    Exact (repeatEnds step reluctant most) fun before text after =>
      ∃ count, (∀ limit, most = some limit → count ≤ limit) ∧
        Rounds isMatch count before text after := by
  have reached : ∀ {cursor next : Cursor} {depth : Nat},
      next ∈ (walkFrom step reluctant depth most ⟨[], []⟩ cursor).ends →
      ∃ text, cursor.Passes text next ∧ ∃ count, (∀ limit, most = some limit → count ≤ limit) ∧
        Rounds isMatch count cursor.before text next.after := by
    intro cursor next depth member
    have reach := (reach_of_mem_walkFrom member).resolve_left List.not_mem_nil
    obtain ⟨count, text, within, passed, rounds⟩ := reach.exists_rounds exact
    exact ⟨text, passed, count, within, rounds⟩
  constructor
  · exact fun member => reached (List.mem_reverse.mp (Cursor.mem_of_mem_distinct member))
  · rintro cursor text after follows ⟨count, within, rounds⟩
    have deep : rank (most, cursor.left) < cursor.left + most.getD 0 + 1 := by
      cases most <;> simp only [rank, Option.getD_none, Option.getD_some] <;> omega
    obtain ⟨-, finished⟩ := thorough_walkFrom exact (cursor.before.reverse ++ cursor.after)
      reluctant _ most ⟨[], []⟩ cursor deep rfl (by simp [OpenFrom])
    obtain ⟨next, member, place⟩ := finished count cursor.before text after (by rw [follows])
      (by rw [Cursor.left, follows]) within rounds
    obtain ⟨more, also, -⟩ := reached member
    have same : more = text := by
      have texts : more ++ next.after = text ++ after := by rw [← also.after, follows]
      exact (List.append_inj' texts place).1
    refine exists_passes_distinct (fun other inside => ?_) (List.mem_reverse.mpr member)
      (same ▸ also)
    obtain ⟨more, passed, -⟩ := reached (List.mem_reverse.mp inside)
    exact ⟨more, passed⟩

/-- Matches in a row and others behind them. -/
theorem rounds_add {count more : Nat} {before text after : Text} :
    Rounds isMatch (count + more) before text after ↔ ∃ front rest, text = front ++ rest ∧
      Rounds isMatch count before front (rest ++ after) ∧
      Rounds isMatch more (front.reverse ++ before) rest after := by
  induction count generalizing before text with
  | zero =>
    rw [Nat.zero_add]
    constructor
    · exact fun rounds => ⟨[], text, rfl, rfl, rounds⟩
    · rintro ⟨_, rest, rfl, rfl, rounds⟩
      exact rounds
  | succ count ih =>
    rw [Nat.add_right_comm]
    simp only [Rounds, ih]
    constructor
    · rintro ⟨first, _, rfl, matched, front, rest, rfl, early, late⟩
      refine ⟨first ++ front, rest, by simp, ⟨first, front, rfl, by simpa using matched, early⟩, ?_⟩
      simpa using late
    · rintro ⟨_, rest, rfl, ⟨first, front, rfl, matched, early⟩, late⟩
      refine ⟨first, front ++ rest, by simp, by simpa using matched, front, rest, rfl, early, ?_⟩
      simpa using late

/-- So many steps go behind so many matches in a row. -/
theorem exact_timesEnds (exact : Exact step isMatch) (count : Nat) :
    Exact (timesEnds step count) (Rounds isMatch count) := by
  induction count with
  | zero =>
    constructor
    · intro cursor next member
      obtain rfl := List.mem_singleton.mp member
      exact ⟨[], .refl next, rfl⟩
    · rintro cursor _ after - rfl
      exact ⟨cursor, List.mem_singleton.mpr rfl, .refl cursor⟩
  | succ count ih =>
    have last : Exact step (Rounds isMatch 1) := exact.congr fun before text after => by
      simp [Rounds]
    exact (ih.both last).congr fun before text after => rounds_add.symm

/-- **So many steps and further ones go behind matches in a row, at least so many and no more than
allowed.** -/
theorem Exact.between (exact : Exact step isMatch) (reluctant : Bool) (least : Nat)
    (most : Option Nat) (possible : ∀ limit, most = some limit → least ≤ limit) :
    Exact (fun cursor => Cursor.distinct
        ((timesEnds step least cursor).flatMap (repeatEnds step reluctant (most.map (· - least)))))
      fun before text after => ∃ count, least ≤ count ∧
        (∀ limit, most = some limit → count ≤ limit) ∧ Rounds isMatch count before text after := by
  refine ((exact_timesEnds exact least).both
    (exact_repeatEnds exact reluctant (most.map (· - least)))).congr fun before text after => ?_
  -- So many rounds are the least ones and as many more as the limit allows.
  have limits : ∀ more, (∀ limit, most.map (· - least) = some limit → more ≤ limit) ↔
      ∀ limit, most = some limit → least + more ≤ limit := by
    intro more
    cases most with
    | none => simp
    | some limit =>
      have enough := possible limit rfl
      simp only [Option.map_some, Option.some.injEq, forall_eq']
      omega
  simp only [limits]
  constructor
  · rintro ⟨front, rest, rfl, early, more, within, late⟩
    exact ⟨least + more, Nat.le_add_right _ _, within,
      rounds_add.mpr ⟨front, rest, rfl, early, late⟩⟩
  · rintro ⟨count, enough, within, rounds⟩
    obtain ⟨more, rfl⟩ := Nat.exists_eq_add_of_le enough
    obtain ⟨front, rest, rfl, early, late⟩ := rounds_add.mp rounds
    exact ⟨front, rest, rfl, early, more, within, late⟩

end Pattern

end Scaffold
