import Scaffold.Proofs.Text.Repetition

/-!
# What a match is made of

A cursor that a pattern ends at stands in the same text as the one it began at, and what its groups
remember are parts of that text (`within_ends`). So a match, the text around it and its groups hold
no other characters than the text that was searched (`within_of_first?`).
-/
namespace Scaffold

/-- The text around a cursor and in its groups is made of certain characters. -/
structure Cursor.Within (legal : Char → Prop) (cursor : Cursor) : Prop where
  /-- The text before the cursor is. -/
  before : ∀ c ∈ cursor.before, legal c
  /-- The text after it is. -/
  after : ∀ c ∈ cursor.after, legal c
  /-- The text of every group is. -/
  groups : ∀ group ∈ cursor.groups, ∀ c ∈ group.2, legal c

namespace Pattern

variable {legal : Char → Prop}

/-- A run of characters stays within the text. -/
theorem within_runFrom {set : CharSet} {after : Text} : ∀ {most : Option Nat} {before : Text}
    {groups : List (Nat × Text)}, Cursor.Within legal ⟨before, after, groups⟩ →
    ∀ next ∈ runFrom set most before groups after, next.Within legal := by
  induction after with
  | nil =>
    intro most before groups within next member
    have only : next = ⟨before, [], groups⟩ := by
      rcases most with _ | _ | most <;> simpa [runFrom] using member
    rw [only]
    exact within
  | cons c rest ih =>
    intro most before groups within next member
    have advanced : Cursor.Within legal ⟨c :: before, rest, groups⟩ := by
      refine ⟨fun d inside => ?_, fun d inside => ?_, within.groups⟩
      · rcases List.mem_cons.mp inside with rfl | earlier
        · exact within.after d List.mem_cons_self
        · exact within.before d earlier
      · exact within.after d (List.mem_cons_of_mem _ inside)
    have further : ∀ {most : Option Nat}, next ∈ (⟨before, c :: rest, groups⟩ : Cursor) ::
        (if set.holds c then runFrom set (most.map (· - 1)) (c :: before) groups rest else []) →
        next.Within legal := by
      intro most here
      rcases List.mem_cons.mp here with rfl | later
      · exact within
      · split at later
        · exact ih advanced next later
        · simp at later
    rcases most with _ | _ | most
    · exact further member
    · rw [runFrom, List.mem_singleton] at member
      rw [member]
      exact within
    · exact further member

/-- Where runs end is within the text. -/
theorem within_runEnds {set : CharSet} {least : Nat} {most : Option Nat} {reluctant : Bool}
    {cursor : Cursor} (within : cursor.Within legal) :
    ∀ next ∈ runEnds set least most reluctant cursor, next.Within legal := by
  intro next member
  have places : next ∈ runFrom set most cursor.before cursor.groups cursor.after := by
    unfold runEnds at member
    split at member
    · exact List.mem_of_mem_drop member
    · exact List.mem_of_mem_drop (List.mem_reverse.mp member)
  exact within_runFrom within next places

variable {step : Cursor → List Cursor}

/-- What is reached by a step that stays within the text is within it. -/
theorem Reach.within (steps : ∀ cursor : Cursor, cursor.Within legal →
    ∀ next ∈ step cursor, next.Within legal) {more : Option Nat} {cursor next : Cursor}
    (reached : Reach step more cursor next) (within : cursor.Within legal) : next.Within legal := by
  induction reached with
  | stay more cursor => exact within
  | round allowed member further ih => exact ih (steps _ within _ member)

/-- Where so many repetitions of a step end is within the text. -/
theorem within_timesEnds (steps : ∀ cursor : Cursor, cursor.Within legal →
    ∀ next ∈ step cursor, next.Within legal) (count : Nat) {cursor : Cursor}
    (within : cursor.Within legal) : ∀ next ∈ timesEnds step count cursor, next.Within legal := by
  unfold timesEnds
  induction count with
  | zero => intro next member; rw [List.mem_singleton.mp member]; exact within
  | succ count ih =>
    intro next member
    obtain ⟨earlier, there, here⟩ := List.mem_flatMap.mp (Cursor.mem_of_mem_distinct member)
    exact steps earlier (ih earlier there) next here

/-- Where a match ends is within the text, and so is what its groups remember. -/
theorem within_ends (pattern : Pattern) : ∀ (cursor : Cursor), cursor.Within legal →
    ∀ next ∈ pattern.ends cursor, next.Within legal := by
  induction pattern with
  | empty =>
    intro cursor within next member
    rw [List.mem_singleton.mp member]
    exact within
  | one set =>
    intro cursor within next member
    unfold ends at member
    split at member
    · simp at member
    · rename_i c rest split
      split at member
      · rw [List.mem_singleton.mp member]
        refine ⟨fun d inside => ?_, fun d inside => ?_, within.groups⟩
        · rcases List.mem_cons.mp inside with rfl | earlier
          · exact within.after d (by rw [split]; exact List.mem_cons_self)
          · exact within.before d earlier
        · exact within.after d (by rw [split]; exact List.mem_cons_of_mem _ inside)
      · simp at member
  | run set least most reluctant =>
    intro cursor within next member
    exact within_runEnds within next member
  | both first second firstIh secondIh =>
    intro cursor within next member
    obtain ⟨middle, there, here⟩ := List.mem_flatMap.mp (Cursor.mem_of_mem_distinct member)
    exact secondIh middle (firstIh cursor within middle there) next here
  | either first second firstIh secondIh =>
    intro cursor within next member
    rcases List.mem_append.mp (Cursor.mem_of_mem_distinct member) with left | right
    · exact firstIh cursor within next left
    · exact secondIh cursor within next right
  | repeated inner least most reluctant ih =>
    intro cursor within next member
    obtain ⟨middle, there, here⟩ := List.mem_flatMap.mp (Cursor.mem_of_mem_distinct member)
    exact (reach_of_mem_repeatEnds here).within ih (within_timesEnds ih least within middle there)
  | group index inner ih =>
    intro cursor within next member
    obtain ⟨last, there, rfl⟩ := List.mem_map.mp member
    have inside := ih cursor within last there
    refine ⟨inside.before, inside.after, fun group remembered => ?_⟩
    rcases List.mem_append.mp remembered with earlier | later
    · exact inside.groups group (List.mem_filter.mp earlier).1
    · rcases List.mem_cons.mp later with rfl | behind
      · intro c here
        exact within.after c (List.mem_of_mem_take here)
      · exact inside.groups group (List.mem_filter.mp behind).1
  | boundary condition =>
    intro cursor within next member
    unfold ends at member
    split at member
    · rw [List.mem_singleton.mp member]
      exact within
    · simp at member

/-- The first match from a place, what surrounds it and its groups are within the text. -/
theorem within_of_firstFrom {pattern : Pattern} {text : Text} : ∀ {before : Text} {match' : Found},
    (∀ c ∈ before, legal c) → (∀ c ∈ text, legal c) →
    pattern.firstFrom before text = some match' →
    (∀ c ∈ match'.before, legal c) ∧ (∀ c ∈ match'.text, legal c) ∧
      (∀ c ∈ match'.after, legal c) ∧ ∀ group ∈ match'.groups, ∀ c ∈ group.2, legal c := by
  have here : ∀ {before text : Text} {last : Cursor}, (∀ c ∈ before, legal c) →
      (∀ c ∈ text, legal c) → last ∈ pattern.ends ⟨before, text, []⟩ →
      (∀ c ∈ (found ⟨before, text, []⟩ last).before, legal c) ∧
        (∀ c ∈ (found ⟨before, text, []⟩ last).text, legal c) ∧
        (∀ c ∈ (found ⟨before, text, []⟩ last).after, legal c) ∧
        ∀ group ∈ (found ⟨before, text, []⟩ last).groups, ∀ c ∈ group.2, legal c := by
    intro before text last front behind member
    have within := within_ends pattern ⟨before, text, []⟩ ⟨front, behind, by simp⟩ last member
    exact ⟨front, fun c inside => behind c (List.mem_of_mem_take inside), within.after,
      within.groups⟩
  induction text with
  | nil =>
    intro before match' front behind matched
    rw [firstFrom, Option.map_eq_some_iff] at matched
    obtain ⟨last, first, rfl⟩ := matched
    exact here front behind (List.mem_of_head? first)
  | cons c rest ih =>
    intro before match' front behind matched
    rw [firstFrom] at matched
    split at matched
    · rename_i last others ends
      cases matched
      exact here front behind (by rw [ends]; exact List.mem_cons_self)
    · refine ih (fun d inside => ?_) (fun d inside => ?_) matched
      · rcases List.mem_cons.mp inside with rfl | earlier
        · exact behind d List.mem_cons_self
        · exact front d earlier
      · exact behind d (List.mem_cons_of_mem _ inside)

/-- The first match in a text, what surrounds it and its groups are within the text. -/
theorem within_of_first? {pattern : Pattern} {text : Text} {match' : Found}
    (whole : ∀ c ∈ text, legal c) (matched : pattern.first? text = some match') :
    (∀ c ∈ match'.before, legal c) ∧ (∀ c ∈ match'.text, legal c) ∧
      (∀ c ∈ match'.after, legal c) ∧ ∀ group ∈ match'.groups, ∀ c ∈ group.2, legal c :=
  within_of_firstFrom (by simp) whole matched

end Pattern

end Scaffold
