import Scaffold.Plan.Build
import Scaffold.Proofs.Schema.Reading

/-!
# What a plan selects

The columns, the searches, the filters and the dependencies of a plan name its own fields,
relationships and projections (`Plan.sourced_ofOptions`), whatever the options ask for. A filter by
fixed options is one by a field that has labels, since a field with options that are no records has
them.
-/
namespace Scaffold

/-- A column of the list shows a field or a projection of the entity. -/
def TableColumn.Sourced (fields : List Field) (projections : List Projection) :
    TableColumn → Prop
  | .field column => column ∈ fields
  | .relation projection => projection ∈ projections

/-- A filter is by a field with the right options or by a key of the entity. -/
def Filter.Sourced (fields : List Field) (relationships : List Relationship) : Filter → Prop
  | .options column => column ∈ fields ∧ column.hasLabels = true
  | .records column => column ∈ fields ∧ column.hasRecords = true
  | .relation relationship =>
    relationship ∈ relationships ∧ relationship.ownsForeignKey = true

/-- A dependency is one between two relationships of the entity that take part in cascades. -/
structure Dependency.Sourced (relationships : List Relationship) (model : Text)
    (dependency : Dependency) : Prop where
  /-- The parent is one of them. -/
  parent : dependency.parent ∈ relationships ∧ Dependency.eligible model dependency.parent = true
  /-- So is the child. -/
  child : dependency.child ∈ relationships ∧ Dependency.eligible model dependency.child = true

namespace Plan

variable {fields : List Field} {relationships : List Relationship}
  {projections : List Projection} {requests : List Text}

/-- A selected value is the one of some request. -/
theorem mem_partition {α : Type} {selected : List (Selected α)} {value : α} :
    value ∈ (partition selected).1 ↔ .ok value ∈ selected := by
  simp only [partition, List.mem_filterMap]
  refine ⟨?_, fun listed => ⟨_, listed, rfl⟩⟩
  rintro ⟨answer, listed, found⟩
  cases answer with
  | error => simp [Except.toOption] at found
  | ok own =>
    obtain rfl := Option.some.inj found
    exact listed

/-- The columns of the list are sourced. -/
theorem sourced_selectColumns : ∀ column ∈ (selectColumns fields projections requests).1,
    column.Sourced fields projections := by
  intro column member
  unfold selectColumns at member
  split at member
  · simp only [List.mem_append, List.mem_map] at member
    rcases member with ⟨field, listed, rfl⟩ | ⟨projection, listed, rfl⟩
    · exact listed
    · exact listed
  · obtain ⟨request, -, selected⟩ := List.mem_map.mp (mem_partition.mp member)
    unfold selectColumn at selected
    split at selected
    · rename_i field _ found
      obtain rfl := Except.ok.inj selected
      exact List.mem_of_find?_eq_some found
    · rename_i projection _ found
      obtain rfl := Except.ok.inj selected
      exact List.mem_of_find?_eq_some found
    · simp at selected

/-- The searched fields are fields of the entity. -/
theorem sourced_selectSearches : ∀ column ∈ (selectSearches fields requests).1,
    column.field ∈ fields := by
  intro column member
  obtain ⟨request, -, selected⟩ := List.mem_map.mp (mem_partition.mp member)
  unfold selectSearch at selected
  split at selected
  · simp at selected
  · rename_i field found
    split at selected
    · obtain rfl := Except.ok.inj selected
      exact List.mem_of_find?_eq_some found
    · simp at selected

/-- A field with options that are no records has labels. -/
theorem hasLabels_of_isFilterable {field : Field} (filterable : field.isFilterable = true)
    (fixed : ¬field.hasRecords = true) : field.hasLabels = true := by
  cases options : field.options with
  | none => simp [Field.isFilterable, options] at filterable
  | labels => simp [Field.hasLabels, Field.labels?, options]
  | records => simp [Field.hasRecords, Field.source?, options] at fixed

/-- The selected filters are sourced. -/
theorem sourced_selectFilter {request : Text} {filter : Filter}
    (selected : selectFilter fields relationships request = .ok filter) :
    filter.Sourced fields relationships := by
  unfold selectFilter at selected
  split at selected
  · rename_i field found
    have listed := List.mem_of_find?_eq_some found
    split at selected
    · rename_i filterable
      split at selected
      · rename_i records
        obtain rfl := Except.ok.inj selected
        exact ⟨listed, records⟩
      · rename_i fixed
        obtain rfl := Except.ok.inj selected
        exact ⟨listed, hasLabels_of_isFilterable filterable fixed⟩
    · simp at selected
  · split at selected
    · rename_i relationship found
      obtain rfl := Except.ok.inj selected
      have owns := List.find?_some found
      simp only [Bool.and_eq_true] at owns
      exact ⟨List.mem_of_find?_eq_some found, owns.1⟩
    · simp at selected

/-- Filters with distinct keys are some of the filters. -/
theorem mem_of_mem_distinctKeys {filters : List Filter} {filter : Filter}
    (member : filter ∈ distinctKeys filters) : filter ∈ filters := by
  induction filters with
  | nil => simp [distinctKeys] at member
  | cons first rest ih =>
    rcases List.mem_cons.mp member with rfl | later
    · exact List.mem_cons_self
    · exact List.mem_cons_of_mem _ (ih (List.mem_filter.mp later).1)

/-- The filters of the list are sourced. -/
theorem sourced_selectFilters : ∀ filter ∈ (selectFilters fields relationships requests).1,
    filter.Sourced fields relationships := by
  intro filter member
  obtain ⟨request, -, selected⟩ :=
    List.mem_map.mp (mem_partition.mp (mem_of_mem_distinctKeys member))
  exact sourced_selectFilter selected

/-- The relationship before another one is one of them. -/
theorem mem_of_mem_withPrevious {previous : Option Relationship} {child : Relationship}
    (member : (previous, child) ∈ Dependency.withPrevious relationships) :
    (∀ parent ∈ previous, parent ∈ relationships) ∧ child ∈ relationships := by
  obtain ⟨before, listed⟩ := List.of_mem_zip member
  refine ⟨?_, listed⟩
  rintro parent rfl
  simpa using before

/-- The parent of a relationship is one of them. -/
theorem mem_of_mem_parent? {mode : InferenceMode} {previous : Option Relationship}
    {child parent : Relationship} (before : ∀ other ∈ previous, other ∈ relationships)
    (found : parent ∈ Dependency.parent? relationships mode previous child) :
    parent ∈ relationships := by
  unfold Dependency.parent? at found
  split at found
  · exact List.mem_of_find?_eq_some found
  · split at found
    · simp at found
    · exact before parent found
    · exact before parent (Option.mem_filter_iff.mp found).1

/-- The inferred dependencies are sourced. -/
theorem sourced_infer {model route : Text} {mode : InferenceMode} :
    ∀ dependency ∈ Dependency.infer relationships model route mode,
      dependency.Sourced relationships model := by
  intro dependency member
  obtain ⟨⟨previous, child⟩, listed, inferred⟩ := List.mem_filterMap.mp member
  obtain ⟨before, own⟩ := mem_of_mem_withPrevious listed
  simp only [Dependency.of?] at inferred
  split at inferred
  · rename_i eligible
    obtain ⟨parent, found, rfl⟩ := Option.map_eq_some_iff.mp inferred
    obtain ⟨chosen, takesPart⟩ := Option.mem_filter_iff.mp found
    exact ⟨⟨mem_of_mem_parent? before chosen, takesPart⟩, own, eligible⟩
  · simp at inferred

/-- What a plan selects is its own. -/
structure Sourced (plan : Plan) : Prop where
  /-- Columns of the list page. -/
  columns : ∀ column ∈ plan.tableColumns, column.Sourced plan.fields plan.projections
  /-- Searched fields. -/
  searches : ∀ column ∈ plan.searchable, column.field ∈ plan.fields
  /-- Filters of the list page. -/
  filters : ∀ filter ∈ plan.filters, filter.Sourced plan.fields plan.relationships
  /-- Dependencies. -/
  dependencies : ∀ dependency ∈ plan.dependencies,
    dependency.Sourced plan.relationships plan.names.model
  /-- Only kinds with a list of options have options. -/
  options : ∀ field ∈ plan.fields, field.options = .none ∨ field.kind.isEnumerable = true

/-- A plan that is made from options selects what is its own. -/
theorem sourced_ofOptions (options : Options) : (ofOptions options).Sourced := by
  refine ⟨sourced_selectColumns, sourced_selectSearches, sourced_selectFilters, sourced_infer,
    fun field member => ?_⟩
  have declared := (List.mem_filter.mp member).1
  obtain ⟨token, -, read⟩ := Schema.exists_token_of_mem_readFields declared
  obtain ⟨_, -, -, kept⟩ := read.rest
  exact kept.imp_right And.left

end Plan

end Scaffold
