import Scaffold.Proofs.Text.Atom
import Scaffold.Proofs.Text.Plain
import Scaffold.Schema.Parser

/-!
# What a declaration is made of

The parts of a field, a relationship or a projection are pieces of the text that declares it, apart
from names in the casings of code. So what holds of every character of the text and of all plain
ones holds of the characters of what is read from it.
-/
namespace Scaffold

open Text

namespace Schema

/-- A token is made of characters of its text. -/
theorem subset_of_mem_tokens {text token : Text} (member : token ∈ tokens text) : token ⊆ text := by
  obtain ⟨piece, listed, rfl⟩ := List.mem_map.mp (List.mem_filter.mp member).1
  exact List.Subset.trans (trim_infix_self piece).subset (subset_of_mem_splitOn listed)

/-- No token holds a comma. -/
theorem comma_notMem_of_mem_tokens {text token : Text} (member : token ∈ tokens text) :
    ',' ∉ token := by
  obtain ⟨piece, listed, rfl⟩ := List.mem_map.mp (List.mem_filter.mp member).1
  exact fun inside => notMem_of_mem_splitOn listed ((trim_infix_self piece).subset inside)

/-- What follows the declared type of a field is a part of what follows its name. -/
theorem subset_of_mem_splitType {behind : Option Text} {rest : Text}
    (found : rest ∈ (splitType behind).2) : ∃ text ∈ behind, rest ⊆ text := by
  cases behind with
  | none => simp [splitType] at found
  | some text =>
    refine ⟨text, rfl, ?_⟩
    cases cut : splitFirst? ':' text with
    | none => simp [splitType, cut] at found
    | some sides =>
      obtain ⟨type, after⟩ := sides
      simp only [splitType, cut, Option.mem_def, Option.some.injEq] at found
      rw [(eq_of_splitFirst? cut).1, ← found]
      exact fun c inside => List.mem_append_right _ (List.mem_cons_of_mem _ inside)

/-- What a token gives its field: the name is a part of the token, and the validation and the
options are read from the two sides of another part, if there is one. -/
structure ReadFrom (token : Text) (field : Field) : Prop where
  /-- The name is a part of the token. -/
  name : field.name ⊆ token
  /-- The other two are read from what stands behind the type, of which options are kept for kinds
  with a list of them. -/
  rest : ∃ parts : Option Text × Option Text,
    (parts = (none, none) ∨ ∃ rest, rest ⊆ token ∧ parts = splitOptions field.kind rest) ∧
    (∀ rules ∈ field.validation, ∃ written ∈ parts.1, rules ∈ validationOf (segments written)) ∧
    (field.options = .none ∨ field.kind.isEnumerable = true ∧
      ∃ options ∈ parts.2, field.options = readOptions options)

/-- Options that are kept are those of a kind with a list of them. -/
theorem keepOptions_cases (token : Text) (kind : FieldKind) (parts : Option Text) :
    (keepOptions token kind ((parts.map readOptions).getD .none)).1 = .none ∨
      kind.isEnumerable = true ∧ ∃ options ∈ parts,
        (keepOptions token kind ((parts.map readOptions).getD .none)).1 = readOptions options := by
  cases parts with
  | none => exact .inl (by simp [keepOptions])
  | some options =>
    by_cases enumerable : kind.isEnumerable = true
    · exact .inr ⟨enumerable, options, rfl, by simp [keepOptions, enumerable]⟩
    · exact .inl (by by_cases empty : readOptions options = .none <;> simp [keepOptions, empty, enumerable])

/-- A field is read from its token. -/
theorem readFrom_of_mem {token : Text} {field : Field} (read : field ∈ (readField token).1) :
    ReadFrom token field := by
  have whole := (trim_infix_self token).subset
  have kept : ∀ {parts : Option Text} {rules : Text},
      rules ∈ (parts.bind fun _ => validationOf ((parts.map segments).getD [])) →
        ∃ written ∈ parts, rules ∈ validationOf (segments written) := by
    intro parts rules found
    cases parts with
    | none => simp at found
    | some written => exact ⟨written, rfl, found⟩
  have behind : ∀ {after : Option Text} {kind : FieldKind} {parts : Option Text × Option Text},
      (∀ text ∈ after, text ⊆ token) → ((splitType after).2 = none → parts = (none, none)) →
      (∀ rest, (splitType after).2 = some rest → parts = splitOptions kind rest) →
      parts = (none, none) ∨ ∃ rest, rest ⊆ token ∧ parts = splitOptions kind rest := by
    intro after kind parts inside absent given
    cases found : (splitType after).2 with
    | none => exact .inl (absent found)
    | some rest =>
      obtain ⟨text, listed, part⟩ := subset_of_mem_splitType found
      exact .inr ⟨rest, List.Subset.trans part (inside text listed), given rest found⟩
  cases cut : splitFirst? ':' (trim token) with
  | none =>
    simp only [readField, cut] at read
    split at read
    · simp at read
    · obtain rfl := Option.some.inj read
      refine ⟨whole, _, @behind none _ _ (by simp) (fun _ => rfl)
        (fun _ found => absurd found.symm (Option.some_ne_none _)),
        fun rules found => kept found, ?_⟩
      exact keepOptions_cases _ _ _
  | some sides =>
    obtain ⟨before, after⟩ := sides
    rw [(eq_of_splitFirst? cut).1] at whole
    simp only [readField, cut] at read
    split at read
    · simp at read
    · obtain rfl := Option.some.inj read
      refine ⟨List.Subset.trans (trim_infix_self before).subset
          fun c inside => whole (List.mem_append_left _ inside),
        _, @behind (some after) _ _ ?_ (fun absent => by rw [absent]) (fun _ found => by rw [found]),
        fun rules found => kept found, ?_⟩
      · intro text same
        rw [← Option.some.inj same]
        exact fun c inside => whole (List.mem_append_right _ (List.mem_cons_of_mem _ inside))
      · exact keepOptions_cases _ _ _

/-- The name of a field ends at the first colon of its token. -/
theorem colon_notMem_name {token : Text} {field : Field} (read : field ∈ (readField token).1) :
    ':' ∉ field.name := by
  cases cut : splitFirst? ':' (trim token) with
  | none =>
    have whole : ':' ∉ trim token := notMem_of_splitFirst? cut
    simp only [readField, cut] at read
    split at read
    · simp at read
    · obtain rfl := Option.some.inj read
      exact whole
  | some sides =>
    obtain ⟨before, after⟩ := sides
    simp only [readField, cut] at read
    split at read
    · simp at read
    · obtain rfl := Option.some.inj read
      exact fun inside => (eq_of_splitFirst? cut).2 ((trim_infix_self before).subset inside)

/-- What holds of the field of every token holds of all that are read. -/
theorem forall_mem_readFieldsAfter {holds : Field → Prop} {all : List Text}
    (single : ∀ token ∈ all, ∀ field ∈ (readField token).1, holds field)
    {known : List Field} (before : ∀ field ∈ known, holds field) :
    ∀ field ∈ (readFieldsAfter known all).1, holds field := by
  induction all generalizing known with
  | nil => exact before
  | cons token rest ih =>
    have later := fun other member => single other (List.mem_cons_of_mem token member)
    unfold readFieldsAfter
    split
    · exact ih later before
    · rename_i field notes read
      split
      · exact ih later before
      · refine ih later fun other member => ?_
        rcases List.mem_append.mp member with old | new
        · exact before other old
        · rw [List.mem_singleton.mp new]
          exact single token List.mem_cons_self field (by rw [read]; rfl)

/-- Every field that a text declares is read from one of its tokens. -/
theorem exists_token_of_mem_readFields {text : Text} {field : Field}
    (member : field ∈ (readFields text).1) : ∃ token ∈ tokens text, ReadFrom token field :=
  @forall_mem_readFieldsAfter (fun field => ∃ token ∈ tokens text, ReadFrom token field)
    (tokens text) (fun token listed _ read => ⟨token, listed, readFrom_of_mem read⟩) []
    (by simp) field member

/-- The name of a declared field holds none of the marks between the parts of a declaration. -/
theorem marks_notMem_name {text : Text} {field : Field} (member : field ∈ (readFields text).1) :
    ':' ∉ field.name ∧ ',' ∉ field.name :=
  @forall_mem_readFieldsAfter (fun field => ':' ∉ field.name ∧ ',' ∉ field.name) (tokens text)
    (fun _ listed _ read => ⟨colon_notMem_name read, fun inside =>
      comma_notMem_of_mem_tokens listed ((readFrom_of_mem read).name inside)⟩) [] (by simp) field
    member

/-- The key of a declared relationship is made of plain characters and those of its token other than
colons. -/
theorem mem_foreignKey {token : Text} {relationship : Relationship} {notes : List Diagnostic}
    (read : readRelationship token = (some relationship, notes)) {c : Char}
    (inside : c ∈ relationship.foreignKey) : isPlain c = true ∨ c ∈ token ∧ c ≠ ':' := by
  have ending : IsPlain ("_id" : Text) := by
    unfold IsPlain
    decide
  have derived : ∀ name, c ∈ Relationship.defaultForeignKey name → isPlain c = true :=
    fun name own => (plain_snakeCase name).append ending c own
  unfold readRelationship at read
  simp only at read
  split at read
  · rename_i declared type target more parts
    split at read
    · simp at read
    · simp only [Prod.mk.injEq, Option.some.injEq] at read
      obtain ⟨rfl, -⟩ := read
      simp only at inside
      split at inside
      · rename_i key others
        split at inside
        · exact .inl (derived _ inside)
        · right
          have listed : key ∈ ((splitOn ':' (trim token)).map trim) := by
            rw [parts]
            simp
          obtain ⟨piece, member, rfl⟩ := List.mem_map.mp listed
          have kept := (trim_infix_self piece).subset inside
          exact ⟨(trim_infix_self token).subset (subset_of_mem_splitOn member kept),
            fun same => notMem_of_mem_splitOn member (same ▸ kept)⟩
      · exact .inl (derived _ inside)
  · simp at read

/-- What holds of the relationship of every token holds of all that are read. -/
theorem forall_mem_readRelationshipsAfter {holds : Relationship → Prop} {all : List Text}
    (single : ∀ token ∈ all, ∀ relationship notes,
      readRelationship token = (some relationship, notes) → holds relationship)
    {known : List Relationship} (before : ∀ relationship ∈ known, holds relationship) :
    ∀ relationship ∈ (readRelationshipsAfter known all).1, holds relationship := by
  induction all generalizing known with
  | nil => exact before
  | cons token rest ih =>
    have later := fun other member => single other (List.mem_cons_of_mem token member)
    unfold readRelationshipsAfter
    split
    · exact ih later before
    · rename_i relationship notes read
      split
      · exact ih later before
      · refine ih later fun other member => ?_
        rcases List.mem_append.mp member with old | new
        · exact before other old
        · rw [List.mem_singleton.mp new]
          exact single token List.mem_cons_self relationship notes read

/-- What holds of the relationship of every token, whichever parent it names, holds of all
relationships that a text declares. -/
theorem forall_mem_readRelationships {holds : Relationship → Prop} {text : Text}
    (single : ∀ token ∈ tokens text, ∀ relationship notes,
      readRelationship token = (some relationship, notes) → holds relationship)
    (forgotten : ∀ relationship, holds relationship → holds { relationship with dependsOn := none }) :
    ∀ relationship ∈ (readRelationships text).1, holds relationship := by
  intro relationship member
  obtain ⟨kept, listed, rfl⟩ := List.mem_map.mp member
  obtain ⟨read, found, rfl⟩ := List.mem_map.mp listed
  have own := forall_mem_readRelationshipsAfter single (by simp) read found
  unfold keepParent
  split
  · exact own
  · split
    · exact own
    · exact forgotten read own

/-- The keys of the relationships of a text are made of plain characters and those of the text other
than the marks between the parts of a declaration. -/
theorem mem_foreignKey_readRelationships {text : Text} {relationship : Relationship}
    (member : relationship ∈ (readRelationships text).1) {c : Char}
    (inside : c ∈ relationship.foreignKey) :
    isPlain c = true ∨ c ∈ text ∧ c ≠ ':' ∧ c ≠ ',' :=
  @forall_mem_readRelationships
    (fun relationship => ∀ c ∈ relationship.foreignKey,
      isPlain c = true ∨ c ∈ text ∧ c ≠ ':' ∧ c ≠ ',') text
    (fun _ listed _ _ read _ own => (mem_foreignKey read own).imp_right fun there =>
      ⟨subset_of_mem_tokens listed there.1, there.2,
        fun same => comma_notMem_of_mem_tokens listed (same ▸ there.1)⟩)
    (fun _ own => own) relationship member c inside

end Schema

end Scaffold
