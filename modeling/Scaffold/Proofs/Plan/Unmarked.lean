import Scaffold.Proofs.Plan.Selection
import Scaffold.Proofs.Registry.Wiring
import Scaffold.Proofs.Schema.Unmarked

/-!
# Plans without percent signs

A plan that is made from options without percent signs holds none in any of its parts
(`Plan.unmarked_ofOptions`): its names and cascades are plain, what the schema declares holds none,
and what is selected and derived is made of that.
-/
namespace Scaffold

open Text

/-- No percent sign stands in the strings of the options. -/
structure Options.Unmarked (options : Options) : Prop where
  /-- Name of the entity. -/
  displayName : Text.Unmarked options.displayName
  /-- Field tokens. -/
  fields : Text.Unmarked options.fields
  /-- Relationship tokens. -/
  relationships : Text.Unmarked options.relationships
  /-- Projection tokens. -/
  projections : Text.Unmarked options.projections
  /-- List columns. -/
  tableColumns : AllUnmarked options.tableColumns
  /-- Searched fields. -/
  searchable : AllUnmarked options.searchable
  /-- Fields and relationships to filter by. -/
  filterable : AllUnmarked options.filterable
  /-- Icon of the navigation entry. -/
  icon : ∀ icon ∈ options.icon, Text.Unmarked icon
  /-- Package. -/
  package : ∀ package ∈ options.package, Text.Unmarked package
  /-- Icon in the setup menu. -/
  systemSetup : ∀ icon ∈ options.systemSetup, Text.Unmarked icon

/-- No percent sign stands in the names of an entity. -/
structure Names.Unmarked (names : Names) : Prop where
  /-- Class name. -/
  model : Text.Unmarked names.model
  /-- Class name in the plural. -/
  modelPlural : Text.Unmarked names.modelPlural
  /-- Variable holding one record. -/
  record : Text.Unmarked names.record
  /-- Variable holding several records. -/
  records : Text.Unmarked names.records
  /-- Words for people. -/
  label : Text.Unmarked names.label
  /-- Words for people, in the plural. -/
  labelPlural : Text.Unmarked names.labelPlural
  /-- Lowercase words with underscores. -/
  snake : Text.Unmarked names.snake
  /-- Database table. -/
  table : Text.Unmarked names.table
  /-- Path and route name. -/
  route : Text.Unmarked names.route
  /-- Path and route name in the singular. -/
  routeSingular : Text.Unmarked names.routeSingular

/-- Whatever the display name, the names derived from it hold none. -/
theorem Names.unmarked_ofDisplayName (displayName : Text) : (ofDisplayName displayName).Unmarked := by
  have snake : IsPlain
      (Inflection.singularize (snakeCase (upperCamelCase (Text.trim displayName)))) :=
    Inflection.plain_singularize (plain_snakeCase _)
  unfold ofDisplayName
  generalize Inflection.singularize (snakeCase (upperCamelCase (Text.trim displayName))) = word
    at snake
  have table := Inflection.plain_pluralize snake
  simp only
  generalize Inflection.pluralize word = words at table
  constructor <;> simp [snake.unmarked, table.unmarked, Text.Unmarked.labelFor]

/-- No percent sign stands in the words of a cascade. -/
structure Cascade.Unmarked (cascade : Cascade) : Prop where
  /-- Method of the controller. -/
  endpoint : Text.Unmarked cascade.endpoint
  /-- Variable of the pages. -/
  state : Text.Unmarked cascade.state
  /-- Path of the route. -/
  routePath : Text.Unmarked cascade.routePath
  /-- Name of the parent in the route. -/
  parentParam : Text.Unmarked cascade.parentParam
  /-- Column of the child's table. -/
  childParentColumn : Text.Unmarked cascade.childParentColumn

/-- The cascade of two relationships holds none if the route does not. -/
theorem Cascade.unmarked_between {parent child : Relationship} {route : Text}
    (clean : Text.Unmarked route) : (between parent child route).Unmarked := by
  unfold between
  constructor <;>
    simp (disch := exact Spelled.of rfl rfl) [clean, -String.reduceToList]

/-- No percent sign stands in a column of the list. -/
def TableColumn.Unmarked : TableColumn → Prop
  | .field column => column.Unmarked
  | .relation projection => projection.Unmarked

/-- No percent sign stands in a filter. -/
def Filter.Unmarked : Filter → Prop
  | .options column => column.Unmarked
  | .records column => column.Unmarked
  | .relation relationship => relationship.Unmarked

namespace Plan

/-- No percent sign stands in what a plan brings to its artifacts. -/
structure Unmarked (plan : Plan) : Prop where
  /-- The names of the entity. -/
  names : plan.names.Unmarked
  /-- Its fields. -/
  fields : ∀ field ∈ plan.fields, field.Unmarked
  /-- Its relationships. -/
  relationships : ∀ relationship ∈ plan.relationships, relationship.Unmarked
  /-- Fields of related records. -/
  projections : ∀ projection ∈ plan.projections, projection.Unmarked
  /-- The cascades of its dependencies. -/
  cascades : ∀ dependency ∈ plan.dependencies, dependency.cascade.Unmarked
  /-- Columns that are assigned from a request. -/
  fillable : AllUnmarked plan.fillable
  /-- Columns that the model converts. -/
  casts : ∀ cast ∈ plan.casts, Text.Unmarked cast.1
  /-- Rules of the requests. -/
  rules : ∀ rule ∈ plan.rules, Text.Unmarked rule.key ∧ Text.Unmarked rule.rule
  /-- The namespace of its package. -/
  package : ∀ scope ∈ plan.package, Text.Unmarked scope.namespaceName

variable {fields : List Field} {relationships : List Relationship} {model : Text}

/-- The columns that a request assigns are names of fields and keys of relationships. -/
theorem unmarked_fillableOf (own : ∀ field ∈ fields, field.Unmarked)
    (keys : ∀ relationship ∈ relationships, relationship.Unmarked) :
    AllUnmarked (fillableOf fields relationships model) := by
  intro column member
  have listed := (List.mem_filter.mp (mem_firstOccurrences.mp member)).1
  rcases List.mem_append.mp listed with name | key
  · obtain ⟨field, kept, rfl⟩ := List.mem_map.mp name
    exact (own field (List.mem_filter.mp kept).1).name
  · obtain ⟨relationship, kept, rfl⟩ := List.mem_map.mp key
    exact (keys relationship (List.mem_filter.mp kept).1).foreignKey

/-- Rules of several parts hold none if the parts do not. -/
theorem unmarked_joinRules {rules : List Text} : Text.Unmarked (joinRules rules) ↔
    AllUnmarked rules :=
  unmarked_joinWith (by unfold Text.Unmarked; decide)

/-- The rule that lets a value be missing. -/
@[simp]
theorem unmarked_nullableRule : Text.Unmarked Schema.nullableRule := unmarked_literal (.of rfl rfl)

/-- Whether a value must be there. -/
@[simp]
theorem unmarked_presenceRule (field : Field) : Text.Unmarked (presenceRule field) := by
  simp (disch := exact Spelled.of rfl rfl) [presenceRule, -String.reduceToList]

/-- The rules of the kinds hold none. -/
@[simp]
theorem unmarked_kindRule (field : Field) : Text.Unmarked (kindRule field) := by
  have catalog : ∀ kind : FieldKind, Text.Unmarked kind.facts.rule := by
    intro kind
    cases kind <;> exact unmarked_literal (.of rfl rfl)
  simp (disch := exact Spelled.of rfl rfl) [kindRule, Field.facts, catalog, -String.reduceToList]

/-- The key of the elements of a list. -/
@[simp]
theorem unmarked_elementKey {key : Text} : Text.Unmarked (elementKey key) ↔ Text.Unmarked key := by
  simp (disch := exact Spelled.of rfl rfl) [elementKey, -String.reduceToList]

/-- The rule that a value is the key of a record. -/
@[simp]
theorem unmarked_existsRule {table : Text} : Text.Unmarked (existsRule table) ↔
    Text.Unmarked table := by
  unfold existsRule
  simp (disch := exact Spelled.of rfl rfl) [-String.reduceToList]

/-- The rule that a value is a position. -/
@[simp]
theorem unmarked_positionsRule (count : Nat) : Text.Unmarked (positionsRule count) := by
  have numbers : Text.Unmarked (Text.joinWith [','] ((List.range count).map Text.ofNat)) :=
    AllUnmarked.joinWith (by simp) (by simp)
  unfold positionsRule
  simp (disch := exact Spelled.of rfl rfl) [numbers, -String.reduceToList]

/-- The rules of a choice hold none if the rule of its members does not. -/
theorem unmarked_choiceRules {field : Field} {memberRule : Text} (name : Text.Unmarked field.name)
    (own : Text.Unmarked memberRule) : ∀ rule ∈ choiceRules field memberRule,
      Text.Unmarked rule.key ∧ Text.Unmarked rule.rule := by
  unfold choiceRules
  split <;>
    simp (disch := exact Spelled.of rfl rfl) [unmarked_joinRules, name, own, -String.reduceToList]

/-- The rules of the elements of a field hold none if its name does not. -/
theorem unmarked_elementRules {field : Field} (name : Text.Unmarked field.name) :
    ∀ rule ∈ elementRules field, Text.Unmarked rule.key ∧ Text.Unmarked rule.rule := by
  have words : Text.Unmarked sliderElementRule ∧ Text.Unmarked mediaElementRule ∧
      Text.Unmarked tagElementRule :=
    ⟨unmarked_literal (.of rfl rfl), unmarked_literal (.of rfl rfl), unmarked_literal (.of rfl rfl)⟩
  unfold elementRules
  split <;>
    simp (disch := exact Spelled.of rfl rfl) [name, words, -String.reduceToList]

/-- The rules of a field hold none if the field does not. -/
theorem unmarked_fieldRules {field : Field} (own : field.Unmarked) :
    ∀ rule ∈ fieldRules field, Text.Unmarked rule.key ∧ Text.Unmarked rule.rule := by
  cases validation : field.validation with
  | some written =>
    have clean := own.validation written validation
    simp only [fieldRules, validation, List.forall_mem_singleton, unmarked_ite]
    exact ⟨own.name, fun _ => unmarked_nullableRule, fun _ => clean⟩
  | none =>
    cases options : field.options with
    | records model shown =>
      have table := (Inflection.plain_pluralize (plain_snakeCase model)).unmarked
      have rule : Text.Unmarked (existsRule (Inflection.pluralize (snakeCase model))) :=
        unmarked_existsRule.mpr table
      simpa only [fieldRules, validation, options] using unmarked_choiceRules own.name rule
    | labels words =>
      have rule : Text.Unmarked (positionsRule words.length) := unmarked_positionsRule _
      simpa only [fieldRules, validation, options] using unmarked_choiceRules own.name rule
    | none =>
      have rule : Text.Unmarked (joinRules [presenceRule field, kindRule field]) :=
        unmarked_joinRules.mpr (by simp)
      simp only [fieldRules, validation, options, List.forall_mem_cons]
      exact ⟨⟨own.name, rule⟩, unmarked_elementRules own.name⟩

/-- The rules of the key of a relationship hold none if the relationship does not. -/
theorem unmarked_keyRule {relationship : Relationship} (own : relationship.Unmarked) :
    Text.Unmarked (keyRule relationship).key ∧ Text.Unmarked (keyRule relationship).rule := by
  refine ⟨own.foreignKey, unmarked_joinRules.mpr ?_⟩
  simp (disch := exact Spelled.of rfl rfl) [own.targetTable, -String.reduceToList]

/-- The rules of an entity hold none if its fields and relationships do not. -/
theorem unmarked_rulesOf (own : ∀ field ∈ fields, field.Unmarked)
    (keys : ∀ relationship ∈ relationships, relationship.Unmarked) :
    ∀ rule ∈ rulesOf fields relationships model,
      Text.Unmarked rule.key ∧ Text.Unmarked rule.rule := by
  intro rule member
  rcases List.mem_append.mp member with declared | key
  · obtain ⟨field, listed, made⟩ := List.mem_flatMap.mp declared
    exact unmarked_fieldRules (own field listed) rule made
  · obtain ⟨relationship, kept, made⟩ := List.mem_map.mp key
    rw [← made]
    exact unmarked_keyRule (keys relationship (List.mem_filter.mp kept).1)

/-- **A plan that is made from options without percent signs holds none.** -/
theorem unmarked_ofOptions {options : Options} (clean : options.Unmarked) :
    (ofOptions options).Unmarked := by
  have fields : ∀ field ∈ (ofOptions options).fields, field.Unmarked := fun field member =>
    Schema.unmarked_readFields clean.fields field (List.mem_filter.mp member).1
  have relationships := Schema.unmarked_readRelationships clean.relationships
  have derived := derived_ofOptions options
  have names := Names.unmarked_ofDisplayName options.displayName
  refine ⟨names, fields, relationships, ?_, ?_, ?_, ?_, ?_, ?_⟩
  · exact Schema.unmarked_readProjections clean.projections
  · intro dependency member
    rw [derived.cascades dependency member]
    exact Cascade.unmarked_between names.route
  · exact unmarked_fillableOf fields relationships
  · intro cast member
    obtain ⟨field, listed, made⟩ := List.mem_filterMap.mp member
    obtain ⟨own, -, rfl⟩ := Option.map_eq_some_iff.mp made
    exact (fields field listed).name
  · exact unmarked_rulesOf fields relationships
  · exact fun scope found => (derived.space scope found).unmarked

end Plan

end Scaffold
