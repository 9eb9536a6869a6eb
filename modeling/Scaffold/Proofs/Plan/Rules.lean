import Scaffold.Proofs.Inflection
import Scaffold.Proofs.Plan.Declared

/-!
# The own rule of a field

A request has one rule under the name of a field (`Plan.own_fieldRules`); other rules of the field are
those of its elements. The rule is a text of segments between bars, and its segments are those of the
parts it is joined from (`Plan.mem_segments_joinRules`).
-/
namespace Scaffold

open Text Inflection

namespace Schema

/-- A rule of plain characters, colons and commas is a single segment. -/
theorem segments_of_forall {rule : Text}
    (legal : ∀ c ∈ rule, isPlain c = true ∨ c = ':' ∨ c = ',') : segments rule = [rule] := by
  have solid : ∀ c ∈ rule, isBlank c = false := by
    intro c inside
    rcases legal c inside with plain | rfl | rfl
    · exact IsPlain.isBlank_eq (fun d same => List.mem_singleton.mp same ▸ plain) c
        (List.mem_singleton_self c)
    · decide
    · decide
  have whole : '|' ∉ rule := by
    intro inside
    rcases legal '|' inside with plain | same | same
    · exact absurd plain (by decide)
    · exact absurd same (by decide)
    · exact absurd same (by decide)
  have trimmed : trim rule = rule :=
    trim_eq_self (fun c first => solid c (List.mem_of_head? first))
      (fun c last => solid c (List.mem_of_getLast? last))
  rw [segments, splitOn_of_notMem whole, List.map_singleton, trimmed]

end Schema

namespace Plan

/-- Joined rules have the segments of each of them. -/
theorem segments_joinRules {rules : List Text} (some : rules ≠ []) :
    Schema.segments (joinRules rules) = rules.flatMap Schema.segments := by
  rw [Schema.segments, joinRules, splitOn_joinWith '|' some, List.map_flatMap]
  rfl

/-- The segments of joined rules are those of each of them. -/
theorem mem_segments_joinRules {rules : List Text} (some : rules ≠ []) {segment : Text} :
    segment ∈ Schema.segments (joinRules rules) ↔
      ∃ rule ∈ rules, segment ∈ Schema.segments rule := by
  rw [segments_joinRules some, List.mem_flatMap]

/-- The rule that names the table of a model is a single segment. -/
theorem segments_existsRule (model : Text) :
    Schema.segments (existsRule (pluralize (snakeCase model))) =
      [existsRule (pluralize (snakeCase model))] := by
  have word : ∀ c ∈ ("exists:" : Text), isPlain c = true ∨ c = ':' ∨ c = ',' := by decide
  have column : ∀ c ∈ (",id" : Text), isPlain c = true ∨ c = ':' ∨ c = ',' := by decide
  refine Schema.segments_of_forall fun c inside => ?_
  rcases List.mem_append.mp inside with front | behind
  · rcases List.mem_append.mp front with first | table
    · exact word c first
    · exact .inl (plain_pluralize (plain_snakeCase model) c table)
  · exact column c behind

/-- The rule that lists positions is a single segment. -/
theorem segments_positionsRule (count : Nat) :
    Schema.segments (positionsRule count) = [positionsRule count] := by
  have word : ∀ c ∈ ("in:" : Text), isPlain c = true ∨ c = ':' ∨ c = ',' := by decide
  refine Schema.segments_of_forall fun c inside => ?_
  rcases List.mem_append.mp inside with first | listed
  · exact word c first
  · rcases mem_joinWith listed with comma | ⟨digits, member, own⟩
    · exact .inr (.inr (List.mem_singleton.mp comma))
    · obtain ⟨value, -, rfl⟩ := List.mem_map.mp member
      exact .inl (plain_ofNat value c own)

/-- What the own rule of a field with options says of the chosen value. -/
def choiceParts (field : Field) (memberRule : Text) : List Text :=
  if field.isMultiple then ["array"] else ["integer", memberRule]

/-- What the own rule of a field says when the field has no validation. -/
def valueParts (field : Field) : List Text :=
  match field.options with
  | .records model _ => choiceParts field (existsRule (pluralize (snakeCase model)))
  | .labels labels => choiceParts field (positionsRule labels.length)
  | .none => [kindRule field]

/-- The rule under the name of a field. -/
def ownRule (field : Field) : Text :=
  match field.validation with
  | some validation => if isBlankText validation then Schema.nullableRule else validation
  | none => joinRules (presenceRule field :: valueParts field)

/-- A word that is no rule with a parameter is said of a chosen value exactly if it tells whether
there are several. -/
theorem mem_segments_choiceParts {field : Field} {memberRule word : Text}
    (single : Schema.segments memberRule = [memberRule]) (parameter : ':' ∈ memberRule)
    (bare : ':' ∉ word) : (∃ part ∈ choiceParts field memberRule, word ∈ Schema.segments part) ↔
      word = if field.isMultiple then ("array" : Text) else ("integer" : Text) := by
  have array : Schema.segments "array" = ["array".toList] := by decide
  have integer : Schema.segments "integer" = ["integer".toList] := by decide
  have other : word ≠ memberRule := fun same => bare (same ▸ parameter)
  unfold choiceParts
  split
  · simp only [List.mem_singleton, exists_eq_left, array]
  · simp only [List.mem_cons, List.not_mem_nil, or_false, exists_eq_or_imp, exists_eq_left, integer,
      single, other]

/-- The same of what a rule says of any value. -/
theorem mem_segments_valueParts {field : Field} {word : Text} (bare : ':' ∉ word) :
    (∃ part ∈ valueParts field, word ∈ Schema.segments part) ↔
      if field.options = .none then word ∈ Schema.segments (kindRule field)
      else word = if field.isMultiple then ("array" : Text) else ("integer" : Text) := by
  unfold valueParts
  cases options : field.options with
  | none => simp
  | labels labels =>
    exact mem_segments_choiceParts (segments_positionsRule _)
      (List.mem_append_left _ (by decide)) bare
  | records model shown =>
    exact mem_segments_choiceParts (segments_existsRule _)
      (List.mem_append_left _ (List.mem_append_left _ (by decide))) bare

/-- The segments of the own rule of a field without validation: whether a value must be there, and
what is said of the value. -/
theorem mem_segments_ownRule {field : Field} {word : Text} (absent : field.validation = none)
    (bare : ':' ∉ word) : word ∈ Schema.segments (ownRule field) ↔ word = presenceRule field ∨
      if field.options = .none then word ∈ Schema.segments (kindRule field)
      else word = if field.isMultiple then ("array" : Text) else ("integer" : Text) := by
  have presence : Schema.segments (presenceRule field) = [presenceRule field] := by
    unfold presenceRule
    split
    · decide
    · decide
  rw [ownRule, absent]
  simp only
  rw [mem_segments_joinRules (List.cons_ne_nil _ _), List.exists_mem_cons_iff, presence,
    List.mem_singleton, mem_segments_valueParts bare]

/-- A longer key is another one. -/
theorem append_ne_self {key more : Text} (some : more ≠ []) : key ++ more ≠ key := by
  simpa using some

/-- The rules of elements stand under other keys. -/
theorem key_ne_of_mem_elementRules {field : Field} {rule : ValidationRule}
    (member : rule ∈ elementRules field) : rule.key ≠ field.name := by
  unfold elementRules at member
  split at member
  · rw [List.mem_singleton.mp member]
    exact append_ne_self (by decide)
  · rw [List.mem_singleton.mp member]
    exact append_ne_self (by decide)
  · rw [List.mem_singleton.mp member]
    exact append_ne_self (by decide)
  · simp at member

/-- Among the rules of a choice exactly the first has the name of the field. -/
theorem own_choiceRules (field : Field) (memberRule : Text) :
    AtKey ValidationRule.key (choiceRules field memberRule) field.name
      (·.rule = joinRules (presenceRule field :: choiceParts field memberRule)) := by
  unfold choiceRules choiceParts
  split
  · refine .cons rfl rfl fun rule member => ?_
    rw [List.mem_singleton.mp member]
    exact append_ne_self (by decide)
  · exact .cons rfl rfl (by simp)

/-- Among the rules of a field exactly the own one has the name of the field. -/
theorem own_fieldRules (field : Field) :
    AtKey ValidationRule.key (fieldRules field) field.name (·.rule = ownRule field) := by
  unfold fieldRules ownRule valueParts
  cases field.validation with
  | some validation => exact .cons rfl rfl (by simp)
  | none =>
    cases field.options with
    | records model shown => exact own_choiceRules field _
    | labels labels => exact own_choiceRules field _
    | none =>
      exact .cons rfl rfl fun rule member => key_ne_of_mem_elementRules member

end Plan

end Scaffold
