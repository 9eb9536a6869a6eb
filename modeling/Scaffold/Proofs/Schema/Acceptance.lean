import Scaffold.Proofs.Schema.Reading

/-!
# Which relationships are accepted

A token has parts between its colons, of which the first three have to be there and not blank.
What is read from such a token has a target and a key column that are not empty and have no blanks
around them, and a name without the marks between the parts of a declaration. Any other token is
reported once as malformed and declares nothing (`Schema.readRelationship_cases`). The name is cut
out of the first part afterwards, so a first part that begins with the mark of a parent leaves it
empty: a token is settled, as a complete relationship or by one diagnostic, exactly if it is not an
accepted one that begins so (`Schema.settled_iff`).
-/
namespace Scaffold

open Text

namespace Text

/-- A plain text that is not empty is tight. -/
theorem IsPlain.tight {text : Text} (plain : IsPlain text) (filled : text ≠ []) : Tight text := by
  refine tight_of_trim filled (trim_eq_self ?_ ?_)
  · exact fun c first => plain.isBlank_eq c (List.mem_of_head? first)
  · exact fun c last => plain.isBlank_eq c (List.mem_of_getLast? last)

end Text

namespace Schema

variable {token declared : Text} {relationship : Relationship} {notes : List Diagnostic}

/-- What an accepted token declares: all is there but for the name, which is empty exactly if the
token begins with the mark of a parent. -/
structure Accepted (token : Text) (relationship : Relationship) : Prop where
  /-- The related entity is named, with no blanks around the name. -/
  target : Tight relationship.target
  /-- So is the key column. -/
  foreignKey : Tight relationship.foreignKey
  /-- There are no blanks around the name. -/
  trimmed : trim relationship.name = relationship.name
  /-- No mark between the parts of a declaration is in it. -/
  free : ∀ c ∈ [':', cascadeMark], c ∉ relationship.name
  /-- It is there unless a mark stands in its place. -/
  named : relationship.name = [] ↔ (trim token).head? = some cascadeMark

/-- The name in front of a mark, and the parent behind it. -/
def splitParent (declared : Text) : Text × Option Text :=
  match splitFirst? cascadeMark declared with
  | some (name, parent) => (trim name, nonBlank? parent)
  | none => (declared, none)

/-- The name that is cut out of a tight first part is empty exactly if that begins with the mark. -/
theorem name_splitParent (tight : Tight declared) :
    trim (splitParent declared).1 = (splitParent declared).1 ∧
      (splitParent declared).1 ⊆ declared ∧ cascadeMark ∉ (splitParent declared).1 ∧
      ((splitParent declared).1 = [] ↔ declared.head? = some cascadeMark) := by
  obtain ⟨c, first, solid⟩ := tight.first
  unfold splitParent
  cases cut : splitFirst? cascadeMark declared with
  | none =>
    have absent := notMem_of_splitFirst? cut
    refine ⟨tight.trim_eq, List.Subset.refl _, absent, ?_⟩
    simp only [tight.ne_nil, false_iff]
    exact fun begins => absent (List.mem_of_head? begins)
  | some sides =>
    obtain ⟨before, after⟩ := sides
    obtain ⟨rfl, absent⟩ := eq_of_splitFirst? cut
    refine ⟨trim_trim before, fun d inside => ?_, fun inside => ?_, ?_⟩
    · exact List.mem_append_left _ ((trim_infix_self before).subset inside)
    · exact absent ((trim_infix_self before).subset inside)
    · cases before with
      | nil => simp [trim, trimStart, trimEnd, dropEndWhile]
      | cons d before =>
        obtain rfl : d = c := by simpa using first
        have kept := head?_trim solid before
        have other : d ≠ cascadeMark := fun same => absent (by simp [same])
        constructor
        · intro empty
          have gone : trim (d :: before) = [] := empty
          rw [gone] at kept
          simp at kept
        · intro begins
          exact absurd (by simpa using begins) other

/-- The first part of a trimmed token, trimmed again, begins as the token does. -/
theorem head?_first_part {more : List Text}
    (parts : (splitOn ':' (trim token)).map trim = declared :: more) (filled : declared ≠ []) :
    (trim token).head? = declared.head? := by
  obtain ⟨piece, rest, split, rfl, -⟩ := List.map_eq_cons_iff.mp parts
  have some_piece : piece ≠ [] := by
    rintro rfl
    exact filled rfl
  have same : (trim token).head? = piece.head? := by
    rw [← joinWith_splitOn ':' (trim token), split, head?_joinWith_cons _ some_piece]
  obtain ⟨c, tail, rfl⟩ := List.exists_cons_of_ne_nil some_piece
  have solid : isBlank c = false := isBlank_head_trim (by rw [same]; rfl)
  rw [same, head?_trim solid, List.head?_cons]

/-- No part between colons holds one. -/
theorem colon_notMem_part {part : Text} (listed : part ∈ (splitOn ':' (trim token)).map trim) :
    ':' ∉ part := by
  obtain ⟨piece, member, rfl⟩ := List.mem_map.mp listed
  exact fun inside => notMem_of_mem_splitOn member ((trim_infix_self piece).subset inside)

/-- A part between colons that is not empty is tight. -/
theorem tight_part {part : Text} (listed : part ∈ (splitOn ':' (trim token)).map trim)
    (filled : part ≠ []) : Tight part := by
  obtain ⟨piece, -, rfl⟩ := List.mem_map.mp listed
  exact tight_trim filled

/-- The key column that is derived from a name is tight. -/
theorem tight_defaultForeignKey (name : Text) : Tight (Relationship.defaultForeignKey name) := by
  have ending : IsPlain ("_id" : Text) := by
    unfold IsPlain
    decide
  exact ((plain_snakeCase name).append ending).tight (by simp)

/-- The kind of a relationship is a reason for at most one note, and for none of a loss. -/
theorem notes_readRelationKind (token type : Text) :
    (readRelationKind token type).2 = [] ∨
      (readRelationKind token type).2 = [⟨token, .unknownRelationKind type⟩] := by
  unfold readRelationKind
  split
  · exact .inl rfl
  · exact .inr rfl

/-- A token is malformed and reported so, or it is accepted; then it is reported at most for a kind
that does not exist. -/
theorem readRelationship_cases (token : Text) :
    readRelationship token = (none, [⟨trim token, .malformedRelationship⟩]) ∨
      ∃ relationship notes, readRelationship token = (some relationship, notes) ∧
        Accepted token relationship ∧
        (notes = [] ∨ ∃ type, notes = [⟨trim token, .unknownRelationKind type⟩]) := by
  unfold readRelationship
  simp only
  split
  · rename_i declared type target more parts
    split
    · exact .inl rfl
    · rename_i complete
      simp only [Bool.or_eq_true, List.isEmpty_iff, not_or] at complete
      obtain ⟨⟨declaredFilled, -⟩, targetFilled⟩ := complete
      have listed : ∀ {part}, part ∈ declared :: type :: target :: more → part ∈
          (splitOn ':' (trim token)).map trim := fun member => parts ▸ member
      have declaredTight := tight_part (listed (by simp)) declaredFilled
      have targetTight := tight_part (listed (by simp)) targetFilled
      obtain ⟨trimmed, inside, absent, empty⟩ := name_splitParent declaredTight
      refine .inr ⟨_, _, rfl, ⟨targetTight, ?_, trimmed, ?_, ?_⟩, ?_⟩
      · cases more with
        | nil => exact tight_defaultForeignKey _
        | cons key rest =>
          by_cases blank : key = []
          · rw [blank]
            exact tight_defaultForeignKey _
          · simp only [List.isEmpty_iff, blank, ↓reduceIte]
            exact tight_part (listed (by simp)) blank
      · intro c mark own
        rcases List.mem_cons.mp mark with rfl | mark
        · exact colon_notMem_part (listed List.mem_cons_self) (inside own)
        · rw [List.mem_singleton.mp mark] at own
          exact absent own
      · rw [head?_first_part parts declaredFilled]
        exact empty
      · rcases notes_readRelationKind (trim token) type with none | one
        · exact .inl none
        · exact .inr ⟨type, one⟩
  · exact .inl rfl

/-- A token is settled: it declares a relationship whose name, target and key column are there, with
no blanks around them and no mark in the name, or it declares none and is reported as malformed
once. -/
def IsSettled (token : Text) : Prop :=
  match readRelationship token with
  | (some relationship, _) =>
    IsAtom [':', cascadeMark] relationship.name ∧ IsAtom [] relationship.target ∧
      IsAtom [] relationship.foreignKey
  | (none, notes) => notes.countP (·.kind == .malformedRelationship) = 1

/-- Whether a token is settled can be computed. -/
instance decidableIsSettled (token : Text) : Decidable (IsSettled token) := by
  unfold IsSettled
  split <;> infer_instance

/-- A tight text is an atom where nothing separates. -/
theorem isAtom_of_tight {text : Text} (tight : Tight text) : IsAtom [] text :=
  ⟨tight.ne_nil, tight.trim_eq, by simp⟩

/-- A token is settled unless it is accepted and begins with the mark of a parent. In any case what
is accepted has its target and its key column and is not reported as malformed, and no mark or
blank is left in its name. -/
theorem settled_iff (token : Text) :
    (IsSettled token ↔
      ((readRelationship token).1.isSome = true → (trim token).head? ≠ some cascadeMark)) ∧
    ∀ relationship ∈ (readRelationship token).1,
      IsAtom [] relationship.target ∧ IsAtom [] relationship.foreignKey ∧
      trim relationship.name = relationship.name ∧ ':' ∉ relationship.name ∧
      cascadeMark ∉ relationship.name ∧
      (readRelationship token).2.countP (·.kind == .malformedRelationship) = 0 := by
  unfold IsSettled
  rcases readRelationship_cases token with malformed | ⟨relationship, notes, read, accepted, said⟩
  · rw [malformed]
    simp
  · rw [read]
    have target := isAtom_of_tight accepted.target
    have key := isAtom_of_tight accepted.foreignKey
    refine ⟨⟨fun settled _ => ?_, fun begins => ⟨?_, target, key⟩⟩, ?_⟩
    · exact fun mark => settled.1.filled (accepted.named.mpr mark)
    · exact ⟨fun empty => begins rfl (accepted.named.mp empty), accepted.trimmed, accepted.free⟩
    · rintro _ ⟨⟩
      refine ⟨target, key, accepted.trimmed, accepted.free ':' (by simp),
        accepted.free cascadeMark (by simp), ?_⟩
      rcases said with rfl | ⟨type, rfl⟩
      · rfl
      · simp

/-- A token with a parent and no name is accepted and not settled. -/
theorem nameless_not_settled : ¬IsSettled "^proof:belongsTo:Lemma" := by
  decide +kernel

end Schema

end Scaffold
