import Scaffold.Backend.Controller
import Scaffold.Backend.Factory
import Scaffold.Backend.Migration
import Scaffold.Backend.Model
import Scaffold.Backend.Request
import Scaffold.Proofs.Code.Unmarked
import Scaffold.Proofs.Page.Records
import Scaffold.Proofs.Plan.Unmarked

/-!
# The server side without percent signs

What the classes of an entity are written from holds no percent sign if the plan holds none. The one
exception is the search: a term that is a part of a value is written between percent signs.
-/
namespace Scaffold

open Text

namespace Field

variable {field : Field}

/-- The records of a field are named without percent signs. -/
theorem Unmarked.source (own : field.Unmarked) : ∀ source ∈ field.source?,
    Text.Unmarked source.1 ∧ Text.Unmarked source.2 := by
  intro source found
  have options := own.options
  cases kept : field.options with
  | none => simp [source?, kept] at found
  | labels => simp [source?, kept] at found
  | records model shown =>
    rw [kept] at options
    simp only [source?, kept, Option.mem_def, Option.some.injEq] at found
    rw [← found]
    exact options

/-- The labels of a field hold none. -/
theorem Unmarked.labels (own : field.Unmarked) : AllUnmarked (field.labels?.getD []) := by
  have options := own.options
  cases kept : field.options with
  | labels words =>
    rw [kept] at options
    simp only [labels?, kept, Option.getD_some]
    exact options
  | none => simp [labels?, kept]
  | records => simp [labels?, kept]

end Field

namespace ClassName

/-- The imports of a file hold none if the classes it uses do not. -/
theorem unmarked_importLines {own : Text} {used : List Text} (clean : AllUnmarked used) :
    AllUnmarked (importLines own used) := by
  simp only [importLines, allUnmarked_map]
  intro name member
  have listed := (List.mem_filter.mp (mem_sortedDistinct.mp member)).1
  unfold importLine
  simp (disch := exact Spelled.of rfl rfl) [clean name listed, -String.reduceToList]

end ClassName

namespace Model

/-- A property that holds names. -/
theorem unmarked_nameListLines {property : Text} {names : List Text} (own : Text.Unmarked property)
    (all : AllUnmarked names) : AllUnmarked (nameListLines property names) := by
  unfold nameListLines
  simp (disch := exact Spelled.of rfl rfl) [own, -String.reduceToList]
  exact all

/-- The shape of an uploaded file. -/
@[simp]
theorem unmarked_mediaShape : Text.Unmarked mediaShape := unmarked_literal (.of rfl rfl)

/-- The collection of a field with uploaded files. -/
theorem unmarked_collectionLine {field : Field} (own : field.Unmarked) :
    Text.Unmarked (collectionLine field) := by
  unfold collectionLine
  simp (disch := exact Spelled.of rfl rfl) [own.name, -String.reduceToList]

/-- The method that gives the uploaded files of a field. -/
theorem unmarked_accessorLines {field : Field} (own : field.Unmarked) :
    AllUnmarked (accessorLines field) := by
  have accessor : Text.Unmarked field.mediaAccessor := by
    unfold Field.mediaAccessor
    simp (disch := exact Spelled.of rfl rfl) [-String.reduceToList]
  unfold accessorLines
  split <;>
    simp (disch := exact Spelled.of rfl rfl) [own.name, accessor, -String.reduceToList]

/-- The method that gives one uploaded file. -/
theorem unmarked_mediaItemLines : AllUnmarked mediaItemLines := by
  unfold mediaItemLines
  simp (disch := exact Spelled.of rfl rfl) [-String.reduceToList]

end Model

namespace Relationship

/-- The method that follows a relationship. -/
theorem Unmarked.methodLines {relationship : Relationship} (own : relationship.Unmarked) :
    AllUnmarked relationship.methodLines := by
  have kind : Text.Unmarked relationship.kind.className ∧ Text.Unmarked relationship.kind.name := by
    cases relationship.kind <;>
      exact ⟨unmarked_literal (.of rfl rfl), unmarked_literal (.of rfl rfl)⟩
  unfold Relationship.methodLines
  simp (disch := exact Spelled.of rfl rfl)
    [method, own.foreignKey, own.target, kind, -String.reduceToList]

end Relationship

namespace ValidationRule

variable {rule : ValidationRule}

/-- The rules of a new record. -/
theorem unmarked_storeLine (own : Text.Unmarked rule.key ∧ Text.Unmarked rule.rule) :
    Text.Unmarked rule.storeLine := by
  unfold storeLine
  simp (disch := exact Spelled.of rfl rfl) [own, -String.reduceToList]

/-- The rule of a segment in a request that changes a record. -/
theorem unmarked_code_ofSegment {key segment record : Text} (own : Text.Unmarked key)
    (clean : Text.Unmarked segment) (variableName : Text.Unmarked record) :
    Text.Unmarked ((UpdateRule.ofSegment key segment).code record) := by
  unfold UpdateRule.ofSegment
  split
  · exact unmarked_quote.mpr clean
  · rename_i target found
    have inside : Text.Unmarked target := by
      have whole := clean.trim
      rw [eq_append_of_afterStart? found, unmarked_append] at whole
      exact whole.2
    have unique : ∀ {table column : Text}, Text.Unmarked table → Text.Unmarked column →
        Text.Unmarked ((UpdateRule.uniqueIn table column).code record) := by
      intro table column first second
      unfold UpdateRule.code
      simp (disch := exact Spelled.of rfl rfl) [first, second, variableName, -String.reduceToList]
    split
    · rename_i table column cut
      obtain ⟨first, second⟩ := inside.splitFirst? cut
      exact unique first second
    · exact unique inside own

/-- The rules of a changed record. -/
theorem unmarked_updateLine {record : Text} (own : Text.Unmarked rule.key ∧ Text.Unmarked rule.rule)
    (variableName : Text.Unmarked record) : Text.Unmarked (rule.updateLine record) := by
  have listed : AllUnmarked (rule.forUpdate.map (UpdateRule.code record)) := by
    simp only [forUpdate, List.map_map, allUnmarked_map]
    exact fun segment member =>
      unmarked_code_ofSegment own.1 (own.2.splitOn segment member) variableName
  unfold updateLine
  simp (disch := exact Spelled.of rfl rfl) only [unmarked_append, unmarked_quote, unmarked_ite,
    Code.unmarked_list, own, unmarked_literal, implies_true, and_true, true_and]
  exact fun _ => listed

end ValidationRule

namespace MadeUp

/-- Numbers hold none. -/
theorem unmarked_positionList (positions : List Nat) : Text.Unmarked (positionList positions) := by
  simp [positionList]

/-- An expression for a value of a kind. -/
theorem unmarked_ofKind (kind : FieldKind) : Text.Unmarked (ofKind kind) := by
  unfold ofKind
  split <;> simp (disch := exact Spelled.of rfl rfl) [-String.reduceToList]

/-- The value that is made up for a field. -/
theorem unmarked_ofField {field : Field} (own : field.Unmarked) :
    Text.Unmarked (ofField field).code := by
  have record : ∀ {model : Text}, Text.Unmarked model → Text.Unmarked (MadeUp.record model).code ∧
      Text.Unmarked (MadeUp.records model).code := by
    intro model clean
    unfold code
    simp (disch := exact Spelled.of rfl rfl) [clean, -String.reduceToList]
  have positions : ∀ numbers count, Text.Unmarked (MadeUp.oneOf numbers).code ∧
      Text.Unmarked (MadeUp.someOf numbers count).code := by
    intro numbers count
    unfold code
    simp (disch := exact Spelled.of rfl rfl) [unmarked_positionList, -String.reduceToList]
  unfold ofField
  split
  · rename_i model shown found
    have clean := record (own.source _ found).1
    split
    · exact clean.2
    · exact clean.1
  · simp only
    split
    · split
      · exact (positions _ _).2
      · exact (positions _ 0).1
    · exact unmarked_ofKind field.kind

end MadeUp

/-- No percent sign stands in a dependency. -/
structure Dependency.Unmarked (dependency : Dependency) : Prop where
  /-- The relationship that is chosen first. -/
  parent : dependency.parent.Unmarked
  /-- The relationship that depends on it. -/
  child : dependency.child.Unmarked
  /-- What wires the two. -/
  cascade : dependency.cascade.Unmarked

/-- No percent sign stands in a record list. -/
structure RecordList.Unmarked (records : RecordList) : Prop where
  /-- The name of the list. -/
  prop : Text.Unmarked records.prop
  /-- The model of the records. -/
  model : Text.Unmarked records.model
  /-- The field that shows a record. -/
  shown : Text.Unmarked records.shown
  /-- What the list depends on. -/
  dependency : ∀ dependency ∈ records.dependency, dependency.Unmarked

namespace Filter

variable {filter : Filter}

/-- The name of a filter in a request. -/
theorem Unmarked.key (own : filter.Unmarked) : Text.Unmarked filter.key := by
  cases filter with
  | options column => exact Field.Unmarked.name own
  | records column => exact Field.Unmarked.name own
  | relation relationship => exact Relationship.Unmarked.foreignKey own

/-- The words shown for a filter. -/
theorem Unmarked.label (own : filter.Unmarked) : Text.Unmarked filter.label := by
  cases filter with
  | options column => exact (Field.Unmarked.name own).labelFor
  | records column => exact (Field.Unmarked.name own).labelFor
  | relation relationship => exact (unmarked_snakeCase _).labelFor

end Filter

namespace Controller

/-- A query for records in an order. -/
theorem unmarked_recordQuery {model conditions shown : Text} (own : Text.Unmarked model)
    (before : Text.Unmarked conditions) (order : Text.Unmarked shown) :
    Text.Unmarked (recordQuery model conditions shown) := by
  unfold recordQuery
  simp (disch := exact Spelled.of rfl rfl) [own, before, order, -String.reduceToList]

/-- The condition that a column has a value. -/
theorem unmarked_whereEquals {column value : Text} (own : Text.Unmarked column)
    (clean : Text.Unmarked value) : Text.Unmarked (whereEquals column value) := by
  unfold whereEquals
  simp (disch := exact Spelled.of rfl rfl) [own, clean, -String.reduceToList]

/-- The condition of a filter. -/
theorem unmarked_filterLines {filter : Filter} (own : filter.Unmarked) :
    AllUnmarked (filterLines filter) := by
  unfold filterLines
  simp (disch := exact Spelled.of rfl rfl) [own.key, -String.reduceToList]

/-- Storing the uploaded files of a field. -/
theorem unmarked_mediaLines {record : Text} {field : Field} (clean : Text.Unmarked record)
    (own : field.Unmarked) (replacing : Bool) :
    AllUnmarked (mediaLines record replacing field) := by
  unfold mediaLines
  split <;>
    simp (disch := exact Spelled.of rfl rfl) [clean, own.name, -String.reduceToList]

/-- The entry of a record list. -/
theorem unmarked_listLines {record : Text} {records : RecordList} (clean : Text.Unmarked record)
    (own : records.Unmarked) : AllUnmarked (listLines record records) := by
  have whole : Text.Unmarked (listQuery records) :=
    unmarked_recordQuery own.model unmarked_nil own.shown
  unfold listLines
  split
  · simp (disch := exact Spelled.of rfl rfl) [own.prop, whole, -String.reduceToList]
  · rename_i dependency found
    have between := own.dependency dependency found
    have chosen : Text.Unmarked ('$' :: record ++ "->" ++ dependency.parent.foreignKey) := by
      simp (disch := exact Spelled.of rfl rfl)
        [clean, between.parent.foreignKey, -String.reduceToList]
    have suited := unmarked_recordQuery own.model
      (unmarked_whereEquals between.cascade.childParentColumn chosen) own.shown
    simp (disch := exact Spelled.of rfl rfl) [own.prop, whole, clean, -String.reduceToList]
    simpa only [List.cons_append, List.append_assoc] using suited

/-- An endpoint. -/
theorem unmarked_endpointLines {endpoint : Endpoint} (method : Text.Unmarked endpoint.method)
    (parameter : Text.Unmarked endpoint.parameter) (model : Text.Unmarked endpoint.model)
    (column : Text.Unmarked endpoint.column) (shown : Text.Unmarked endpoint.shown) :
    AllUnmarked endpoint.lines := by
  have value : Text.Unmarked ('$' :: endpoint.parameter) :=
    unmarked_cons.mpr ⟨by decide, parameter⟩
  have query := unmarked_recordQuery model (unmarked_whereEquals column value) shown
  unfold Endpoint.lines
  simp (disch := exact Spelled.of rfl rfl) [method, parameter, query, -String.reduceToList]

end Controller

namespace Plan

variable {plan : Plan}

/-- The interfaces of the model. -/
theorem unmarked_modelInterfaces (plan : Plan) : Text.Unmarked plan.modelInterfaces := by
  unfold Plan.modelInterfaces
  simp (disch := exact Spelled.of rfl rfl) [-String.reduceToList]

/-- The traits of the model. -/
theorem unmarked_modelTraits (plan : Plan) : Text.Unmarked plan.modelTraits := by
  unfold Plan.modelTraits
  simp (disch := exact Spelled.of rfl rfl) [-String.reduceToList]

/-- The imports of a request. -/
theorem unmarked_requestImports (plan : Plan) (withUnique : Bool) : AllUnmarked (plan.requestImports withUnique) := by
  apply ClassName.unmarked_importLines
  simp (disch := exact Spelled.of rfl rfl) [-String.reduceToList]

/-- The relations loaded with records. -/
theorem unmarked_loadedRelations (plan : Plan) : AllUnmarked plan.loadedRelations := by
  intro name member
  obtain ⟨projection, -, rfl⟩ := List.mem_map.mp (mem_firstOccurrences.mp member)
  exact unmarked_lowerCamelCase _

/-- The relations loaded with the list. -/
theorem unmarked_eagerLoads (plan : Plan) : Text.Unmarked plan.eagerLoads := by
  unfold eagerLoads
  simp (disch := exact Spelled.of rfl rfl) [unmarked_loadedRelations plan, -String.reduceToList]

namespace Unmarked

variable (clean : plan.Unmarked)
include clean

/-- The namespace of the generated classes. -/
theorem namespaceName : Text.Unmarked plan.namespaceName := by
  unfold Plan.namespaceName
  split
  · rename_i scope found
    simp (disch := exact Spelled.of rfl rfl) [clean.package scope found, -String.reduceToList]
  · exact unmarked_literal (.of rfl rfl)

/-- The namespace of the factory. -/
theorem factoryNamespace : Text.Unmarked plan.factoryNamespace := by
  unfold Plan.factoryNamespace
  split
  · rename_i scope found
    simp (disch := exact Spelled.of rfl rfl) [clean.package scope found, -String.reduceToList]
  · exact unmarked_literal (.of rfl rfl)

/-- The namespace of the model. -/
theorem modelNamespace : Text.Unmarked plan.modelNamespace := by
  unfold Plan.modelNamespace
  simp (disch := exact Spelled.of rfl rfl) [clean.namespaceName, -String.reduceToList]

/-- The namespace of the controller. -/
theorem controllerNamespace : Text.Unmarked plan.controllerNamespace := by
  unfold Plan.controllerNamespace
  simp (disch := exact Spelled.of rfl rfl) [clean.namespaceName, -String.reduceToList]

/-- The namespace of the requests. -/
theorem requestNamespace : Text.Unmarked plan.requestNamespace := by
  unfold Plan.requestNamespace
  simp (disch := exact Spelled.of rfl rfl) [clean.namespaceName, -String.reduceToList]

/-- The model with its namespace. -/
theorem modelClass : Text.Unmarked plan.modelClass := by
  unfold Plan.modelClass
  simp (disch := exact Spelled.of rfl rfl)
    [clean.namespaceName, clean.names.model, -String.reduceToList]

/-- The class of a related entity. -/
theorem relatedClass {model : Text} (own : Text.Unmarked model) :
    Text.Unmarked (plan.relatedClass model) := by
  unfold Plan.relatedClass
  simp (disch := exact Spelled.of rfl rfl) [clean.namespaceName, own, -String.reduceToList]

/-- The class of the factory. -/
theorem factoryClass : Text.Unmarked plan.factoryClass := by
  unfold Plan.factoryClass
  simp (disch := exact Spelled.of rfl rfl)
    [clean.factoryNamespace, clean.names.model, -String.reduceToList]

/-- The class of the users. -/
theorem userClass : Text.Unmarked (plan.relatedClass "User") :=
  clean.relatedClass (unmarked_literal (.of rfl rfl))

/-- The column of a field. -/
theorem columnLines : AllUnmarked plan.columnLines := by
  simp only [Plan.columnLines, allUnmarked_map]
  intro column member
  obtain ⟨field, listed, made⟩ := List.mem_filterMap.mp member
  have name : Text.Unmarked column.name := by
    simp only [Column.ofField?] at made
    split at made
    · simp at made
    · rw [← Option.some.inj made]
      exact (clean.fields field listed).name
  have call : Text.Unmarked (Column.call column.type).1 ∧
      AllUnmarked (Column.call column.type).2 := by
    unfold Column.call
    split <;> simp (disch := exact Spelled.of rfl rfl) [-String.reduceToList]
  have ending : Text.Unmarked (Column.defaultCall column.default) := by
    unfold Column.defaultCall
    split <;> simp (disch := exact Spelled.of rfl rfl) [-String.reduceToList]
  unfold Column.line
  simp (disch := exact Spelled.of rfl rfl) [name, call, ending, -String.reduceToList]

/-- The key columns. -/
theorem keyLines : AllUnmarked plan.keyLines := by
  simp only [Plan.keyLines, allUnmarked_map]
  intro relationship member
  have own := clean.relationships relationship (mem_of_mem_foreignKeys member)
  unfold Relationship.keyLine
  simp (disch := exact Spelled.of rfl rfl)
    [own.foreignKey, own.targetTable, -String.reduceToList]

/-- The imports of the model. -/
theorem modelImports : AllUnmarked plan.modelImports := by
  apply ClassName.unmarked_importLines
  have relation : ∀ relationship ∈ plan.relationships, AllUnmarked (plan.relationUses relationship) := by
    intro relationship member
    have target := clean.relatedClass (clean.relationships relationship member).target
    have kind : Text.Unmarked relationship.kind.className := by
      cases relationship.kind <;> exact unmarked_literal (.of rfl rfl)
    unfold relationUses
    simp (disch := exact Spelled.of rfl rfl) [target, kind, -String.reduceToList]
  have common : AllUnmarked plan.commonModelUses := by
    unfold commonModelUses
    simp (disch := exact Spelled.of rfl rfl) [clean.userClass, -String.reduceToList]
  unfold modelUses
  simp (disch := exact Spelled.of rfl rfl)
    [common, clean.factoryClass, -String.reduceToList]
  exact relation

/-- The columns that a request assigns. -/
theorem fillableLines : AllUnmarked plan.fillableLines := by
  simp only [Plan.fillableLines, allUnmarked_map]
  intro column member
  simp (disch := exact Spelled.of rfl rfl) [clean.fillable column member, -String.reduceToList]

/-- The conversions. -/
theorem castLines : AllUnmarked plan.castLines := by
  simp only [Plan.castLines, allUnmarked_map]
  intro cast member
  have name : Text.Unmarked cast.2.name := by
    cases cast.2 <;> exact unmarked_literal (.of rfl rfl)
  simp (disch := exact Spelled.of rfl rfl) [clean.casts cast member, name, -String.reduceToList]

/-- The names of the fields with uploaded files. -/
theorem mediaNames : AllUnmarked (plan.mediaFields.map (·.name)) := by
  simp only [allUnmarked_map]
  exact fun field member => (clean.fields field (List.mem_filter.mp member).1).name

/-- The attributes that stand for uploaded files. -/
theorem appendLines : AllUnmarked plan.appendLines := by
  have appends : AllUnmarked (Model.nameListLines "appends" (plan.mediaFields.map (·.name))) :=
    Model.unmarked_nameListLines (unmarked_literal (.of rfl rfl)) clean.mediaNames
  have hidden : AllUnmarked (Model.nameListLines "hidden" ["media"]) :=
    Model.unmarked_nameListLines (unmarked_literal (.of rfl rfl))
      (allUnmarked_cons.mpr ⟨unmarked_literal (.of rfl rfl), allUnmarked_nil⟩)
  unfold Plan.appendLines
  simp [appends, hidden, -String.reduceToList]

/-- The method that names the factory of a package. -/
theorem factoryMethodLines : AllUnmarked plan.factoryMethodLines := by
  unfold Plan.factoryMethodLines
  simp (disch := exact Spelled.of rfl rfl) [clean.names.model, -String.reduceToList]

/-- The relationship methods. -/
theorem relationLines : AllUnmarked plan.relationLines := by
  simp only [Plan.relationLines, Code.allUnmarked_below, allUnmarked_flatMap]
  exact fun relationship member => (clean.relationships relationship member).methodLines

/-- The methods for uploaded files. -/
theorem mediaMethodLines : AllUnmarked plan.mediaMethodLines := by
  have own : ∀ field ∈ plan.mediaFields, field.Unmarked :=
    fun field member => clean.fields field (List.mem_filter.mp member).1
  unfold Plan.mediaMethodLines
  simp (disch := exact Spelled.of rfl rfl) only [allUnmarked_ite, Code.allUnmarked_below,
    Code.allUnmarked_body, allUnmarked_append, allUnmarked_cons, allUnmarked_map,
    allUnmarked_flatMap, unmarked_nil, unmarked_literal, allUnmarked_nil, implies_true, true_and,
    and_true]
  exact fun _ => ⟨⟨fun field member => Model.unmarked_collectionLine (own field member),
    fun field member => Model.unmarked_accessorLines (own field member)⟩,
    Model.unmarked_mediaItemLines⟩

/-- The rules for a new record. -/
theorem storeRuleLines : AllUnmarked plan.storeRuleLines := by
  simp only [Plan.storeRuleLines, allUnmarked_map]
  exact fun rule member => ValidationRule.unmarked_storeLine (clean.rules rule member)

/-- The rules for a changed record. -/
theorem updateRuleLines : AllUnmarked plan.updateRuleLines := by
  simp only [Plan.updateRuleLines, allUnmarked_map]
  exact fun rule member =>
    ValidationRule.unmarked_updateLine (clean.rules rule member) clean.names.record

/-- The imports of the factory. -/
theorem factoryImports : AllUnmarked plan.factoryImports := by
  apply ClassName.unmarked_importLines
  have relations : ∀ relationship ∈ plan.formRelations,
      Text.Unmarked (plan.relatedClass relationship.target) := fun relationship member =>
    clean.relatedClass (clean.relationships relationship (mem_of_mem_formRelations member)).target
  have records : AllUnmarked (plan.dynamicFields.filterMap fun field =>
      field.source?.map fun source => plan.relatedClass source.1) := by
    intro name member
    obtain ⟨field, listed, made⟩ := List.mem_filterMap.mp member
    obtain ⟨source, found, rfl⟩ := Option.map_eq_some_iff.mp made
    exact clean.relatedClass ((clean.fields field (List.mem_filter.mp listed).1).source _ found).1
  have common : AllUnmarked plan.commonFactoryUses := by
    unfold commonFactoryUses
    simp (disch := exact Spelled.of rfl rfl)
      [clean.modelClass, clean.userClass, -String.reduceToList]
  simp only [factoryUses, allUnmarked_append, allUnmarked_map]
  exact ⟨⟨common, relations⟩, records⟩

/-- The values of a made-up record. -/
theorem factoryLines : AllUnmarked plan.factoryLines := by
  have line : ∀ {column value : Text}, Text.Unmarked column → Text.Unmarked value →
      Text.Unmarked (factoryLine column value) := by
    intro column value first second
    unfold factoryLine
    simp (disch := exact Spelled.of rfl rfl) [first, second, -String.reduceToList]
  simp only [Plan.factoryLines, allUnmarked_append, allUnmarked_map, allUnmarked_cons,
    allUnmarked_nil, and_true]
  refine ⟨⟨fun field member => ?_, fun relationship member => ?_⟩, ?_⟩
  · have own := clean.fields field (List.mem_filter.mp member).1
    exact line own.name (MadeUp.unmarked_ofField own)
  · have own := clean.relationships relationship (mem_of_mem_formRelations member)
    refine line own.foreignKey ?_
    simp (disch := exact Spelled.of rfl rfl) [own.target, -String.reduceToList]
  · refine line (unmarked_literal (.of rfl rfl)) ?_
    unfold MadeUp.code
    simp (disch := exact Spelled.of rfl rfl) [-String.reduceToList]

/-- The field that shows the records of a relationship. -/
theorem shownField (relationship : Relationship) : Text.Unmarked (plan.shownField relationship) := by
  unfold Plan.shownField
  cases found : plan.projections.find? (·.relation == relationship.name) with
  | none => exact unmarked_literal (.of rfl rfl)
  | some projection => exact (clean.projections projection (List.mem_of_find?_eq_some found)).field

/-- A dependency between relationships of the plan. -/
theorem dependency (sourced : plan.Sourced) {dependency : Dependency}
    (member : dependency ∈ plan.dependencies) : dependency.Unmarked := by
  have source := sourced.dependencies dependency member
  exact ⟨clean.relationships _ source.parent.1, clean.relationships _ source.child.1,
    clean.cascades dependency member⟩

/-- The dependency in which a relationship is the child. -/
theorem dependencyOf? (sourced : plan.Sourced) {name : Text} :
    ∀ dependency ∈ plan.dependencyOf? name, dependency.Unmarked :=
  fun _ found => clean.dependency sourced (List.mem_of_find?_eq_some found)

/-- The record lists of the pages. -/
theorem recordLists (sourced : plan.Sourced) : ∀ records ∈ plan.recordLists, records.Unmarked := by
  intro records member
  rcases List.mem_append.mp member with relation | record
  · obtain ⟨relationship, listed, rfl⟩ := List.mem_map.mp relation
    have own := clean.relationships relationship (sourced.mem_of_mem_listedRelations listed)
    exact ⟨Code.unmarked_optionsName, own.target, clean.shownField relationship,
      clean.dependencyOf? sourced⟩
  · obtain ⟨field, listed, made⟩ := List.mem_filterMap.mp record
    obtain ⟨⟨model, shown⟩, found, rfl⟩ := Option.map_eq_some_iff.mp made
    have own := (clean.fields field (List.mem_filter.mp listed).1).source _ found
    exact ⟨Code.unmarked_optionsName, own.1, own.2, by simp⟩

/-- A filter of the list. -/
theorem filter (sourced : plan.Sourced) {filter : Filter} (member : filter ∈ plan.filters) :
    filter.Unmarked := by
  have source := sourced.filters filter member
  cases filter with
  | options column => exact clean.fields column source.1
  | records column => exact clean.fields column source.1
  | relation relationship => exact clean.relationships relationship source.1

/-- The imports of the controller. -/
theorem controllerImports (sourced : plan.Sourced) : AllUnmarked plan.controllerImports := by
  apply ClassName.unmarked_importLines
  have records : ∀ records ∈ plan.recordLists, Text.Unmarked (plan.relatedClass records.model) :=
    fun records member => clean.relatedClass (clean.recordLists sourced records member).model
  have common : AllUnmarked plan.commonControllerUses := by
    unfold commonControllerUses
    simp (disch := exact Spelled.of rfl rfl)
      [clean.modelClass, clean.requestNamespace, clean.names.model, -String.reduceToList]
  unfold controllerUses
  simp (disch := exact Spelled.of rfl rfl) [common, -String.reduceToList]
  exact records

/-- The filters of the list. -/
theorem filterLines (sourced : plan.Sourced) : AllUnmarked plan.filterLines := by
  simp only [Plan.filterLines, Code.allUnmarked_below, allUnmarked_flatMap]
  exact fun filter member => Controller.unmarked_filterLines (clean.filter sourced member)

/-- The request keys of the search and the filters. -/
theorem filterKeys (sourced : plan.Sourced) : Text.Unmarked plan.filterKeys := by
  simp only [Plan.filterKeys, unmarked_quoteList, allUnmarked_cons, allUnmarked_map]
  exact ⟨unmarked_literal (.of rfl rfl), fun filter member => (clean.filter sourced member).key⟩

/-- The request keys of uploaded files. -/
theorem mediaKeys : Text.Unmarked plan.mediaKeys := by
  simpa only [Plan.mediaKeys, unmarked_quoteList] using clean.mediaNames

/-- Storing the uploaded files of a record. -/
theorem mediaLines (replacing : Bool) : AllUnmarked (plan.mediaLines replacing) := by
  simp only [Plan.mediaLines, Code.allUnmarked_below, allUnmarked_flatMap]
  exact fun field member => Controller.unmarked_mediaLines clean.names.record
    (clean.fields field (List.mem_filter.mp member).1) replacing

/-- The method of the detail page. -/
theorem showLines : AllUnmarked plan.showLines := by
  unfold Plan.showLines
  simp (disch := exact Spelled.of rfl rfl) [clean.names.model, clean.names.record,
    clean.names.route, unmarked_loadedRelations plan, -String.reduceToList]

/-- The record lists that the controller hands to the pages. -/
theorem listLines (sourced : plan.Sourced) : AllUnmarked plan.listLines := by
  simp only [Plan.listLines, allUnmarked_flatMap]
  exact fun records member =>
    Controller.unmarked_listLines clean.names.record (clean.recordLists sourced records member)

/-- The endpoints of the controller. -/
theorem endpointLines (sourced : plan.Sourced) : AllUnmarked plan.endpointLines := by
  simp only [Plan.endpointLines, endpoints, allUnmarked_flatMap, allUnmarked_cons, unmarked_nil,
    true_and, List.forall_mem_map]
  intro dependency member
  have own := clean.dependency sourced member
  exact Controller.unmarked_endpointLines own.cascade.endpoint own.cascade.parentParam
    own.child.target own.cascade.childParentColumn (clean.shownField dependency.child)

end Unmarked

end Plan

end Scaffold
